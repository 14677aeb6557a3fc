import QverisBot.Js

/-! # Channel message actions

`src/channels/plugins/message-actions.ts`: the capability queries over the loaded plugins and
`dispatchChannelMessageAction`. A plugin's optional capabilities are `Option` fields; a
handler is a function from the context it is given to its result. `Cfg` is the config
passed through to the plugins, `R` the handlers' result type.
-/

namespace QverisBot.Channels

open QverisBot.Js

/-- The fields of `ChannelMessageActionContext` the dispatcher reads. The others reach the
handler unchanged, which `{ ctx with channel := _ }` keeps by construction. -/
structure ChannelMessageActionContext where
  channel : String
  action : String
  requesterSenderId : Option String
  /-- `ctx.toolContext` is set: the call comes from the agent's tool path. -/
  toolContext : Bool
  deriving DecidableEq, Repr

abbrev Ctx := ChannelMessageActionContext

/-- `plugin.actions`: every capability may be absent. -/
structure ChannelMessageActions (Cfg R : Type) where
  listActions : Option (Cfg → List String)
  supportsAction : Option (String → Bool)
  handleAction : Option (Ctx → R)
  supportsButtons : Option (Cfg → Bool)
  supportsCards : Option (Cfg → Bool)

structure ChannelPlugin (Cfg R : Type) where
  id : String
  actions : Option (ChannelMessageActions Cfg R)

variable {Cfg R : Type}

/-- Modelled from the spec: `getChannelPlugin(id)` of `./index.js`, the loaded plugin whose
id is `id`. -/
def getChannelPlugin (plugins : List (ChannelPlugin Cfg R)) (id : String) :
    Option (ChannelPlugin Cfg R) :=
  plugins.find? (·.id == id)

/-! ## Capability queries -/

/-- `listChannelMessageActions`: a `Set` seeded with the built-ins, so insertion order. -/
def listChannelMessageActions (plugins : List (ChannelPlugin Cfg R)) (cfg : Cfg) : List String :=
  plugins.foldl (fun acc plugin =>
    match plugin.actions.bind (·.listActions) with
    | none => acc
    | some list => (list cfg).foldl (fun acc action => if action ∈ acc then acc else acc ++ [action]) acc)
    ["send", "broadcast"]

def supportsChannelMessageButtons (plugins : List (ChannelPlugin Cfg R)) (cfg : Cfg) : Bool :=
  plugins.any fun plugin => (plugin.actions.bind (·.supportsButtons)).any (· cfg)

def supportsChannelMessageButtonsForChannel (plugins : List (ChannelPlugin Cfg R)) (cfg : Cfg)
    (channel : Option String) : Bool :=
  truthy channel &&
    ((getChannelPlugin plugins (channel.getD "")).bind (·.actions)
      |>.bind (·.supportsButtons) |>.any (· cfg))

def supportsChannelMessageCards (plugins : List (ChannelPlugin Cfg R)) (cfg : Cfg) : Bool :=
  plugins.any fun plugin => (plugin.actions.bind (·.supportsCards)).any (· cfg)

def supportsChannelMessageCardsForChannel (plugins : List (ChannelPlugin Cfg R)) (cfg : Cfg)
    (channel : Option String) : Bool :=
  truthy channel &&
    ((getChannelPlugin plugins (channel.getD "")).bind (·.actions)
      |>.bind (·.supportsCards) |>.any (· cfg))

/-! ## The authorization gate -/

/-- What `trustedRequesterRequiredByChannel[channel]` finds on the object literal. -/
inductive GateEntry
  /-- The own entry: a `Set` of action names. -/
  | actions (names : List String)
  /-- A member inherited from `Object.prototype`; it has no `has` method. -/
  | inherited
  deriving DecidableEq, Repr

def trustedRequesterRequiredByChannel (channel : String) : Option GateEntry :=
  if channel = "discord" then some (.actions ["timeout", "kick", "ban"])
  else if channel ∈ objectPrototypeMembers then some .inherited
  else none

inductive DispatchError
  | trustedSenderRequired (message : String)
  /-- `actions?.has(ctx.action)` on an inherited member: `actions.has is not a function`. -/
  | typeError
  deriving DecidableEq, Repr

def requiresTrustedRequesterSender (ctx : Ctx) : Except DispatchError Bool :=
  match trustedRequesterRequiredByChannel ctx.channel with
  | none => pure false
  | some (.actions names) => pure (names.contains ctx.action && ctx.toolContext)
  | some .inherited => throw .typeError

/-- The `if (...) throw` that opens `dispatchChannelMessageAction`. -/
def authorizationGate (ctx : Ctx) : Except DispatchError Unit := do
  if (← requiresTrustedRequesterSender ctx) && isBlank ctx.requesterSenderId then
    throw (.trustedSenderRequired ("Trusted sender identity is required for " ++ ctx.channel ++
      ":" ++ ctx.action ++ " in tool-driven contexts."))

/-! ## Dispatch -/

/-- One `handleAction` call: the plugin it belongs to, the context it was given, and what it
returned. -/
structure HandlerCall (R : Type) where
  plugin : String
  ctx : Ctx
  result : R

/-- `actions.supportsAction && !actions.supportsAction({ action })`. -/
def ChannelMessageActions.rejects (actions : ChannelMessageActions Cfg R) (action : String) :
    Bool :=
  match actions.supportsAction with
  | some supports => !supports action
  | none => false

/-- The primary dispatch: the plugin registered for `ctx.channel`, called with `ctx`. -/
def dispatchPrimary (plugins : List (ChannelPlugin Cfg R)) (ctx : Ctx) : Option (HandlerCall R) :=
  match getChannelPlugin plugins ctx.channel with
  | none => none
  | some plugin =>
    match plugin.actions with
    | none => none
    | some actions =>
      match actions.handleAction with
      | none => none
      | some handle => if actions.rejects ctx.action then none else some ⟨plugin.id, ctx, handle ctx⟩

/-- The cross-channel fallback loop over `listChannelPlugins()`. -/
def dispatchFallback (ctx : Ctx) : List (ChannelPlugin Cfg R) → Option (HandlerCall R)
  | [] => none
  | candidate :: rest =>
    if candidate.id = ctx.channel then dispatchFallback ctx rest else
    match candidate.actions with
    | none => dispatchFallback ctx rest
    | some actions =>
      match actions.handleAction with
      | none => dispatchFallback ctx rest
      | some handle =>
        if actions.rejects ctx.action then dispatchFallback ctx rest
        else some ⟨candidate.id, { ctx with channel := candidate.id },
          handle { ctx with channel := candidate.id }⟩

/-- `dispatchChannelMessageAction`. `none` is the `null` of an unsupported action. -/
def dispatchChannelMessageAction (plugins : List (ChannelPlugin Cfg R)) (ctx : Ctx) :
    Except DispatchError (Option (HandlerCall R)) := do
  authorizationGate ctx
  pure ((dispatchPrimary plugins ctx).orElse fun _ => dispatchFallback ctx plugins)

end QverisBot.Channels
