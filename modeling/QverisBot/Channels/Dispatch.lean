import QverisBot.Channels.MessageActions

/-! # Which handler `dispatchChannelMessageAction` runs

One lemma per step of the dispatcher (gate, primary, fallback loop), then what a dispatch
does over every registry and context.
-/

namespace QverisBot.Channels

open QverisBot.Js

variable {Cfg R : Type}

/-- The plugin has a handler, and its `supportsAction`, if any, accepts `action`. -/
def ChannelPlugin.canHandle (p : ChannelPlugin Cfg R) (action : String) : Bool :=
  match p.actions with
  | some actions => actions.handleAction.isSome && (actions.supportsAction.map (· action)).getD true
  | none => false

/-- The call of the plugin's handler with the context `c`. -/
def ChannelPlugin.invoke (p : ChannelPlugin Cfg R) (c : Ctx) : Option (HandlerCall R) :=
  (p.actions.bind (·.handleAction)).map fun handle => ⟨p.id, c, handle c⟩

/-- The documented fallback: the first plugin in registry order, other than those with the
primary's id, that can handle the action, called with the channel rewritten to its id. -/
def expectedFallback (plugins : List (ChannelPlugin Cfg R)) (ctx : Ctx) : Option (HandlerCall R) :=
  (plugins.find? fun p => p.id != ctx.channel && p.canHandle ctx.action).bind
    fun p => p.invoke { ctx with channel := p.id }

/-- The choice the dispatcher is documented to make: the registered plugin with `ctx`
unchanged if it can handle the action, else the documented fallback. -/
def expectedHandlerCall (plugins : List (ChannelPlugin Cfg R)) (ctx : Ctx) :
    Option (HandlerCall R) :=
  match getChannelPlugin plugins ctx.channel with
  | some p => if p.canHandle ctx.action then p.invoke ctx else expectedFallback plugins ctx
  | none => expectedFallback plugins ctx

/-! ## Small helpers -/

theorem invoke_isSome_of_canHandle {p : ChannelPlugin Cfg R} {action : String} (c : Ctx)
    (h : p.canHandle action = true) : ∃ call, p.invoke c = some call := by
  rcases p with ⟨id, _ | ⟨_, _, _ | handle, _, _⟩⟩ <;> simp_all [ChannelPlugin.canHandle,
    ChannelPlugin.invoke]

theorem invoke_eq_some {p : ChannelPlugin Cfg R} {c : Ctx} {call : HandlerCall R}
    (h : p.invoke c = some call) : call.plugin = p.id ∧ call.ctx = c := by
  rcases p with ⟨id, _ | ⟨_, _, _ | handle, _, _⟩⟩ <;> simp [ChannelPlugin.invoke] at h
  subst h
  exact ⟨rfl, rfl⟩

theorem getChannelPlugin_id {plugins : List (ChannelPlugin Cfg R)} {id : String}
    {p : ChannelPlugin Cfg R} (h : getChannelPlugin plugins id = some p) : p.id = id ∧ p ∈ plugins := by
  simp only [getChannelPlugin] at h
  exact ⟨by simpa using List.find?_some h, List.mem_of_find?_eq_some h⟩

/-! ## One lemma per step -/

theorem dispatch_of_gate {plugins : List (ChannelPlugin Cfg R)} {ctx : Ctx}
    (h : authorizationGate ctx = .ok ()) :
    dispatchChannelMessageAction plugins ctx =
      .ok ((dispatchPrimary plugins ctx).orElse fun _ => dispatchFallback ctx plugins) := by
  simp only [dispatchChannelMessageAction, bind, Except.bind, h]
  rfl

theorem dispatchPrimary_eq (plugins : List (ChannelPlugin Cfg R)) (ctx : Ctx) :
    dispatchPrimary plugins ctx = (getChannelPlugin plugins ctx.channel).bind
      fun p => if p.canHandle ctx.action then p.invoke ctx else none := by
  unfold dispatchPrimary
  rcases getChannelPlugin plugins ctx.channel with _ | ⟨id, _ | ⟨_, _ | supports, _ | handle, _, _⟩⟩ <;>
    simp [ChannelPlugin.canHandle, ChannelPlugin.invoke, ChannelMessageActions.rejects]
  cases supports ctx.action <;> rfl

theorem dispatchFallback_cons (ctx : Ctx) (p : ChannelPlugin Cfg R)
    (rest : List (ChannelPlugin Cfg R)) :
    dispatchFallback ctx (p :: rest) =
      if (p.id != ctx.channel && p.canHandle ctx.action) = true then
        p.invoke { ctx with channel := p.id }
      else dispatchFallback ctx rest := by
  rcases p with ⟨id, _ | ⟨_, _ | supports, _ | handle, _, _⟩⟩ <;> by_cases hid : id = ctx.channel <;>
    simp [dispatchFallback, ChannelPlugin.canHandle, ChannelPlugin.invoke,
      ChannelMessageActions.rejects, hid]
  all_goals cases supports ctx.action <;> rfl

theorem dispatchFallback_eq_find (ctx : Ctx) (plugins : List (ChannelPlugin Cfg R)) :
    dispatchFallback ctx plugins = expectedFallback plugins ctx := by
  induction plugins with
  | nil => rfl
  | cons p rest ih =>
    rw [dispatchFallback_cons, expectedFallback]
    by_cases hq : (p.id != ctx.channel && p.canHandle ctx.action) = true
    · simp only [hq, if_true, List.find?_cons, Option.some_bind]
    · simp only [Bool.not_eq_true] at hq
      simp only [hq, List.find?_cons, ih, expectedFallback]; rfl

theorem dispatch_eq_expected {plugins : List (ChannelPlugin Cfg R)} {ctx : Ctx}
    (h : authorizationGate ctx = .ok ()) :
    dispatchChannelMessageAction plugins ctx = .ok (expectedHandlerCall plugins ctx) := by
  rw [dispatch_of_gate h, dispatchPrimary_eq, dispatchFallback_eq_find, expectedHandlerCall]
  rcases getChannelPlugin plugins ctx.channel with _ | p
  · rfl
  · by_cases hp : p.canHandle ctx.action
    · obtain ⟨call, hcall⟩ := invoke_isSome_of_canHandle ctx hp
      simp [hp, hcall]
    · simp [hp]

theorem expectedFallback_call {plugins : List (ChannelPlugin Cfg R)} {ctx : Ctx}
    {call : HandlerCall R} (h : expectedFallback plugins ctx = some call) :
    call.ctx = { ctx with channel := call.plugin } ∧
      ∃ p ∈ plugins, p.id = call.plugin ∧ p.canHandle ctx.action = true ∧
        p.invoke call.ctx = some call := by
  obtain ⟨p, hfind, hinv⟩ := Option.bind_eq_some.mp h
  obtain ⟨hid, hctx⟩ := invoke_eq_some hinv
  have hq := List.find?_some hfind
  simp only [Bool.and_eq_true] at hq
  exact ⟨by rw [hctx, hid], p, List.mem_of_find?_eq_some hfind, hid.symm, hq.2, hctx ▸ hinv⟩

theorem expectedHandlerCall_call {plugins : List (ChannelPlugin Cfg R)} {ctx : Ctx}
    {call : HandlerCall R} (h : expectedHandlerCall plugins ctx = some call) :
    call.ctx = { ctx with channel := call.plugin } ∧
      ∃ p ∈ plugins, p.id = call.plugin ∧ p.canHandle ctx.action = true ∧
        p.invoke call.ctx = some call := by
  unfold expectedHandlerCall at h
  split at h
  · next p hget =>
    obtain ⟨hid, hmem⟩ := getChannelPlugin_id hget
    split at h
    · obtain ⟨hpid, hctx⟩ := invoke_eq_some h
      exact ⟨by rw [hctx, hpid, hid], p, hmem, hpid.symm, ‹_›, hctx ▸ h⟩
    · exact expectedFallback_call h
  · exact expectedFallback_call h

theorem gate_of_dispatch_ok {plugins : List (ChannelPlugin Cfg R)} {ctx : Ctx}
    {r : Option (HandlerCall R)} (h : dispatchChannelMessageAction plugins ctx = .ok r) :
    authorizationGate ctx = .ok () := by
  simp only [dispatchChannelMessageAction, bind, Except.bind] at h
  split at h
  · cases h
  · rename_i u hu; exact hu

/-- **One handler, chosen as documented.** Past the gate, the dispatcher runs the registered
plugin with `ctx` unchanged if it can handle the action, else the first other plugin that
can, with the channel rewritten to its id; every call goes to a plugin that accepts the
action and gets that plugin's own id as channel. -/
theorem dispatch_calls_documented_handler (plugins : List (ChannelPlugin Cfg R)) (ctx : Ctx)
    (hgate : authorizationGate ctx = .ok ()) :
    dispatchChannelMessageAction plugins ctx = .ok (expectedHandlerCall plugins ctx) ∧
      ∀ call, expectedHandlerCall plugins ctx = some call →
        call.ctx = { ctx with channel := call.plugin } ∧
          ∃ p ∈ plugins, p.id = call.plugin ∧ p.canHandle ctx.action = true ∧
            p.invoke call.ctx = some call :=
  ⟨dispatch_eq_expected hgate, fun _ h => expectedHandlerCall_call h⟩

/-- The registry of the documentation's example: `A` refuses `ping`, `B` accepts it and answers
with the channel it was given. -/
def pingRegistry : List (ChannelPlugin Unit String) :=
  [⟨"A", some ⟨none, some fun _ => false, some fun _ => "A", none, none⟩⟩,
    ⟨"B", some ⟨none, some (· == "ping"), some fun c => "pong from " ++ c.channel, none, none⟩⟩]

theorem dispatch_calls_documented_handler_ping :
    (authorizationGate ⟨"A", "ping", none, false⟩ = .ok () ∧
      dispatchChannelMessageAction pingRegistry ⟨"A", "ping", none, false⟩ =
          .ok (expectedHandlerCall pingRegistry ⟨"A", "ping", none, false⟩) ∧
        ∀ call, expectedHandlerCall pingRegistry ⟨"A", "ping", none, false⟩ = some call →
          call.ctx = { (⟨"A", "ping", none, false⟩ : Ctx) with channel := call.plugin } ∧
            ∃ p ∈ pingRegistry, p.id = call.plugin ∧ p.canHandle "ping" = true ∧
              p.invoke call.ctx = some call) ∧
    (authorizationGate ⟨"B", "ping", none, false⟩ = .ok () ∧
      dispatchChannelMessageAction pingRegistry ⟨"B", "ping", none, false⟩ =
          .ok (expectedHandlerCall pingRegistry ⟨"B", "ping", none, false⟩) ∧
        ∀ call, expectedHandlerCall pingRegistry ⟨"B", "ping", none, false⟩ = some call →
          call.ctx = { (⟨"B", "ping", none, false⟩ : Ctx) with channel := call.plugin } ∧
            ∃ p ∈ pingRegistry, p.id = call.plugin ∧ p.canHandle "ping" = true ∧
              p.invoke call.ctx = some call) ∧
    expectedHandlerCall pingRegistry ⟨"A", "ping", none, false⟩ =
      some ⟨"B", ⟨"B", "ping", none, false⟩, "pong from B"⟩ ∧
    expectedHandlerCall pingRegistry ⟨"B", "ping", none, false⟩ =
      some ⟨"B", ⟨"B", "ping", none, false⟩, "pong from B"⟩ :=
  ⟨⟨rfl, dispatch_calls_documented_handler _ _ rfl⟩, ⟨rfl, dispatch_calls_documented_handler _ _ rfl⟩,
    rfl, rfl⟩

/-- **The fallback runs a gated action without a sender.** A `kick` asked for on `feishu` from
the tool path with no sender passes the gate, which looks up `feishu`, and reaches the
`discord` handler with the channel rewritten to `discord`. -/
theorem fallback_runs_kick_without_sender :
    dispatchChannelMessageAction
        ([⟨"feishu", some ⟨none, some (· == "send"), some fun _ => "sent", none, none⟩⟩,
          ⟨"discord", some ⟨none, none, some fun _ => "kicked", none, none⟩⟩] :
          List (ChannelPlugin Unit String))
        ⟨"feishu", "kick", none, true⟩ =
      .ok (some ⟨"discord", ⟨"discord", "kick", none, true⟩, "kicked"⟩) ∧
    requiresTrustedRequesterSender ⟨"discord", "kick", none, true⟩ = .ok true ∧
    isBlank none = true :=
  ⟨rfl, rfl, rfl⟩

/-- **A gated call without a sender came through the fallback.** A handler that gets a listed
action from the tool path with a blank sender belongs to another plugin than the one asked for:
the gate stops such a call on the primary path. -/
theorem gated_call_without_sender_is_fallback {plugins : List (ChannelPlugin Cfg R)} {ctx : Ctx}
    {call : HandlerCall R} (h : dispatchChannelMessageAction plugins ctx = .ok (some call))
    (hreq : requiresTrustedRequesterSender call.ctx = .ok true)
    (hblank : isBlank call.ctx.requesterSenderId = true) : call.plugin ≠ ctx.channel := by
  intro hid
  have hgate := gate_of_dispatch_ok h
  rw [dispatch_eq_expected hgate, Except.ok.injEq] at h
  have hctx : call.ctx = ctx := by rw [(expectedHandlerCall_call h).1, hid]
  rw [hctx] at hreq hblank
  simp [authorizationGate, hreq, hblank, bind, Except.bind, throw, throwThe,
    MonadExceptOf.throw] at hgate

/-- `feishu` sends only; `discord` handles everything. -/
def kickRegistry : List (ChannelPlugin Unit String) :=
  [⟨"feishu", some ⟨none, some (· == "send"), some fun _ => "sent", none, none⟩⟩,
    ⟨"discord", some ⟨none, none, some fun _ => "kicked", none, none⟩⟩]

theorem gated_call_without_sender_is_fallback_kick :
    dispatchChannelMessageAction kickRegistry ⟨"feishu", "kick", none, true⟩ =
      .ok (some ⟨"discord", ⟨"discord", "kick", none, true⟩, "kicked"⟩) ∧
    requiresTrustedRequesterSender ⟨"discord", "kick", none, true⟩ = .ok true ∧
    isBlank none = true ∧ "discord" ≠ "feishu" :=
  ⟨rfl, rfl, rfl, @gated_call_without_sender_is_fallback Unit String kickRegistry
    ⟨"feishu", "kick", none, true⟩ ⟨"discord", ⟨"discord", "kick", none, true⟩, "kicked"⟩ rfl rfl rfl⟩

/-- **An inherited channel name throws.** `trustedRequesterRequiredByChannel["constructor"]` is
`Object`, which has no `has`, so the gate throws a `TypeError` before any handler runs, even
off the tool path. -/
theorem dispatch_throws_for_inherited_channel (plugins : List (ChannelPlugin Cfg R)) :
    dispatchChannelMessageAction plugins ⟨"constructor", "send", none, false⟩ = .error .typeError :=
  rfl

end QverisBot.Channels
