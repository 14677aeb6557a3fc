import QverisBot.Js

/-! # Delivery target of an isolated cron job

`src/cron/isolated-agent/delivery-target.ts`. The collaborators the resolver calls
(`resolveSessionDeliveryTarget`, `resolveMessageChannelSelection`,
`buildChannelAccountBindings`, `resolveOutboundTarget`, the session store) are fields of
`DeliveryCollaborators`, so every result below holds for every behaviour of them. `Cfg` is
the config, `Entry` a session entry, `E` the `Error` of a rejected recipient.
-/

namespace QverisBot.Cron

open QverisBot.Js

inductive CronDeliveryMode
  | origin
  | current
  deriving DecidableEq, Repr

inductive DeliveryMode
  | explicit
  | implicit
  deriving DecidableEq, Repr

/-- `string | number`. -/
inductive ThreadId
  | str (s : String)
  | num (n : Int)
  deriving DecidableEq, Repr

def ThreadId.truthy : ThreadId → Bool
  | .str s => s != ""
  | .num n => n != 0

structure CronOrigin where
  channel : Option String
  «to» : Option String
  accountId : Option String
  threadId : Option ThreadId
  deriving DecidableEq, Repr

structure JobPayload where
  /-- `"last"` or a channel id. -/
  channel : Option String
  «to» : Option String
  sessionKey : Option String
  deriving DecidableEq, Repr

structure ResolveOptions where
  origin : Option CronOrigin
  deliveryMode : Option CronDeliveryMode
  deriving DecidableEq, Repr

structure SessionDeliveryTargetParams (Entry : Type) where
  entry : Option Entry
  requestedChannel : String
  explicitTo : Option String
  fallbackChannel : Option String
  allowMismatchedLastTo : Bool
  mode : Option DeliveryMode

/-- The fields of `resolveSessionDeliveryTarget`'s result that the resolver reads. -/
structure SessionDeliveryTarget where
  channel : Option String
  «to» : Option String
  accountId : Option String
  threadId : Option ThreadId
  threadIdExplicit : Bool
  mode : DeliveryMode
  lastChannel : Option String
  lastTo : Option String
  deriving DecidableEq, Repr

structure OutboundTargetParams (Cfg : Type) where
  channel : String
  «to» : String
  cfg : Cfg
  accountId : Option String
  mode : DeliveryMode

/-- `{ ok: true, to } | { ok: false, error }`. -/
inductive OutboundTargetResolution (E : Type)
  | ok (target : String)
  | error (error : E)

def OutboundTargetResolution.to? {E : Type} : OutboundTargetResolution E → Option String
  | .ok target => some target
  | .error _ => none

def OutboundTargetResolution.error? {E : Type} : OutboundTargetResolution E → Option E
  | .ok _ => none
  | .error e => some e

structure DeliveryTarget (E : Type) where
  channel : String
  «to» : Option String
  accountId : Option String
  threadId : Option ThreadId
  mode : DeliveryMode
  error : Option E

structure DeliveryCollaborators (Cfg Entry E : Type) where
  resolveAgentMainSessionKey : Cfg → String → String
  /-- The snapshot `loadSessionStore(resolveStorePath(cfg.session?.store, { agentId }))`,
  looked up by key. -/
  loadSessionStore : Cfg → String → String → Option Entry
  resolveSessionDeliveryTarget : SessionDeliveryTargetParams Entry → SessionDeliveryTarget
  /-- The selected channel, or `none` when `resolveMessageChannelSelection` throws. -/
  resolveMessageChannelSelection : Cfg → Option String
  /-- `buildChannelAccountBindings(cfg).get(channel)?.get(agentId)`. -/
  buildChannelAccountBindings : Cfg → String → String → Option (List String)
  normalizeAgentId : String → String
  resolveOutboundTarget : OutboundTargetParams Cfg → OutboundTargetResolution E
  /-- `DEFAULT_CHAT_CHANNEL` of `channels/registry.js`. -/
  defaultChatChannel : String

variable {Cfg Entry E : Type}

/-! ## The origin -/

/-- The value of a `string | undefined` where the code tests it for truthiness. -/
def truthyValue (o : Option String) : Option String := o.filter (· != "")

/-- `typeof jobPayload.channel === "string" && jobPayload.channel !== "last"`. -/
def hasExplicitChannel (jobPayload : JobPayload) : Bool :=
  match jobPayload.channel with
  | some c => c != "last"
  | none => false

/-- `typeof jobPayload.to === "string" && jobPayload.to.trim() !== ""`. -/
def hasExplicitTo (jobPayload : JobPayload) : Bool :=
  match jobPayload.to with
  | some t => trim t != ""
  | none => false

/-- `useOrigin`: the origin, when the job delivers in origin mode (the default), the payload
overrides neither channel nor recipient, and the origin has one of them. -/
def originInUse (jobPayload : JobPayload) (options : ResolveOptions) : Option CronOrigin :=
  match options.origin with
  | some origin =>
    if options.deliveryMode.getD .origin = .origin && !hasExplicitChannel jobPayload &&
        !hasExplicitTo jobPayload && (truthy origin.channel || truthy origin.to) then some origin
    else none
  | none => none

/-- The short-circuit of `useOrigin && origin.channel && origin.to`: the origin's channel and
recipient. -/
def originShortCircuit (used : Option CronOrigin) : Option (String × String) :=
  match used with
  | some origin =>
    match truthyValue origin.channel, truthyValue origin.to with
    | some channel, some recipient => some (channel, recipient)
    | _, _ => none
  | none => none

/-- `requestedChannel`: the payload's channel, else the origin's in use, else `"last"`. -/
def requestedChannel (jobPayload : JobPayload) (used : Option CronOrigin) : String :=
  match jobPayload.channel with
  | some c => if c != "last" then c else (truthyValue (used.bind (·.channel))).getD "last"
  | none => (truthyValue (used.bind (·.channel))).getD "last"

def explicitTo (jobPayload : JobPayload) (used : Option CronOrigin) : Option String :=
  if hasExplicitTo jobPayload then jobPayload.to else truthyValue (used.bind (·.to))

/-! ## The session pass -/

/-- The preliminary session resolution, the fallback channel and the resolution the result
is built from. -/
structure SessionPass where
  preliminary : SessionDeliveryTarget
  fallbackChannel : Option String
  resolved : SessionDeliveryTarget

/-- Steps 3 to 5: the thread or main session entry, the preliminary resolution, the fallback
channel when it has no channel, and the re-run with that fallback. -/
def sessionPass (env : DeliveryCollaborators Cfg Entry E) (cfg : Cfg) (agentId : String)
    (jobPayload : JobPayload) (used : Option CronOrigin) : SessionPass :=
  let requested := requestedChannel jobPayload used
  let store := env.loadSessionStore cfg agentId
  let threadEntry := (truthyValue (jobPayload.sessionKey.map trim)).bind store
  let main := threadEntry.orElse fun _ => store (env.resolveAgentMainSessionKey cfg agentId)
  let params : SessionDeliveryTargetParams Entry :=
    ⟨main, requested, explicitTo jobPayload used, none, requested == "last", none⟩
  let preliminary := env.resolveSessionDeliveryTarget params
  let fallbackChannel :=
    if truthy preliminary.channel then none
    else match truthyValue (used.bind (·.channel)) with
      | some channel => some channel
      | none => some ((env.resolveMessageChannelSelection cfg).getD
          (preliminary.lastChannel.getD env.defaultChatChannel))
  let resolved :=
    if truthy fallbackChannel then
      env.resolveSessionDeliveryTarget
        { params with fallbackChannel := fallbackChannel, mode := some preliminary.mode }
    else preliminary
  ⟨preliminary, fallbackChannel, resolved⟩

/-! ## The result -/

/-- The returned object once the recipient has been through `resolveOutboundTarget`. -/
def withDocked (channel : String) (accountId : Option String) (threadId : Option ThreadId)
    (mode : DeliveryMode) (docked : OutboundTargetResolution E) : DeliveryTarget E :=
  ⟨channel, docked.to?, accountId, threadId, mode, docked.error?⟩

/-- Step 6: the session's account, else the first account bound to the agent. -/
def boundAccountId (env : DeliveryCollaborators Cfg Entry E) (cfg : Cfg) (agentId channel : String)
    (accountId : Option String) : Option String :=
  if !truthy accountId && channel != "" then
    match env.buildChannelAccountBindings cfg channel (env.normalizeAgentId agentId) with
    | some (first :: _) => some first
    | _ => accountId
  else accountId

/-- Step 7: a resolved thread id is kept only when it was explicit or the recipient is the
session's last one. -/
def carriedThreadId (resolved : SessionDeliveryTarget) : Option ThreadId :=
  match resolved.threadId with
  | some t =>
    if t.truthy && (resolved.threadIdExplicit || (truthy resolved.to && resolved.to == resolved.lastTo))
    then some t else none
  | none => none

/-- Steps 6 to 8 over the session pass. -/
def finishDelivery (env : DeliveryCollaborators Cfg Entry E) (cfg : Cfg) (agentId : String)
    (pass : SessionPass) : DeliveryTarget E :=
  let channel := (pass.resolved.channel.orElse fun _ => pass.fallbackChannel).getD
    env.defaultChatChannel
  let mode := pass.resolved.mode
  let accountId := boundAccountId env cfg agentId channel pass.resolved.accountId
  let threadId := carriedThreadId pass.resolved
  match truthyValue pass.resolved.to with
  | none => ⟨channel, none, accountId, threadId, mode, none⟩
  | some toCandidate =>
    withDocked channel accountId threadId mode
      (env.resolveOutboundTarget ⟨channel, toCandidate, cfg, accountId, mode⟩)

/-- `resolveDeliveryTarget`. -/
def resolveDeliveryTarget (env : DeliveryCollaborators Cfg Entry E) (cfg : Cfg) (agentId : String)
    (jobPayload : JobPayload) (options : ResolveOptions) : DeliveryTarget E :=
  let used := originInUse jobPayload options
  match originShortCircuit used, used with
  | some (channel, recipient), some origin =>
    withDocked channel origin.accountId origin.threadId .explicit
      (env.resolveOutboundTarget ⟨channel, recipient, cfg, origin.accountId, .explicit⟩)
  | _, _ => finishDelivery env cfg agentId (sessionPass env cfg agentId jobPayload used)

end QverisBot.Cron
