import QverisBot.Cron.DeliveryTarget

/-! # What `resolveDeliveryTarget` guarantees

Over every collaborator behaviour: recipients and errors come from the normalizer, a thread
id never follows a changed recipient, the origin short-circuit is exact, and the origin is
not read once the payload overrides it.
-/

namespace QverisBot.Cron

open QverisBot.Js

variable {Cfg Entry E : Type}

/-! ## Small helpers -/

theorem truthyValue_eq_some {o : Option String} {s : String} :
    truthyValue o = some s ↔ o = some s ∧ s ≠ "" := by
  cases o with
  | none => simp [truthyValue]
  | some v =>
    by_cases hv : v = ""
    · subst hv; simp [truthyValue, Option.filter]; exact fun h => h.symm
    · simp [truthyValue, Option.filter, hv]; exact fun h => h ▸ hv

@[simp] theorem to?_eq_some {d : OutboundTargetResolution E} {t : String} :
    d.to? = some t ↔ d = .ok t := by
  cases d <;> simp [OutboundTargetResolution.to?]

@[simp] theorem error?_eq_some {d : OutboundTargetResolution E} {e : E} :
    d.error? = some e ↔ d = .error e := by
  cases d <;> simp [OutboundTargetResolution.error?]

theorem originShortCircuit_eq_some {used : Option CronOrigin} {channel recipient : String}
    (h : originShortCircuit used = some (channel, recipient)) :
    ∃ origin, used = some origin ∧ truthyValue origin.channel = some channel ∧
      truthyValue origin.to = some recipient := by
  rcases used with _ | origin
  · cases h
  · refine ⟨origin, rfl, ?_⟩
    simp only [originShortCircuit] at h
    cases hc : truthyValue origin.channel <;> cases ht : truthyValue origin.to <;> simp_all

theorem resolveDeliveryTarget_of_session {env : DeliveryCollaborators Cfg Entry E} {cfg : Cfg}
    {agentId : String} {jobPayload : JobPayload} {options : ResolveOptions}
    (h : originShortCircuit (originInUse jobPayload options) = none) :
    resolveDeliveryTarget env cfg agentId jobPayload options =
      finishDelivery env cfg agentId (sessionPass env cfg agentId jobPayload
        (originInUse jobPayload options)) := by
  simp only [resolveDeliveryTarget, h]

theorem resolveDeliveryTarget_of_origin {env : DeliveryCollaborators Cfg Entry E} {cfg : Cfg}
    {agentId : String} {jobPayload : JobPayload} {options : ResolveOptions} {origin : CronOrigin}
    {channel recipient : String} (hu : originInUse jobPayload options = some origin)
    (h : originShortCircuit (some origin) = some (channel, recipient)) :
    resolveDeliveryTarget env cfg agentId jobPayload options =
      withDocked channel origin.accountId origin.threadId .explicit
        (env.resolveOutboundTarget ⟨channel, recipient, cfg, origin.accountId, .explicit⟩) := by
  simp only [resolveDeliveryTarget, hu, h]

/-! ## Normalized recipients -/

/-- A recipient of `r` is what the normalizer returned for a non-empty candidate on `r`'s
channel, account and mode, and so is an error of `r`; never both. -/
def NormalizedBy (normalize : OutboundTargetParams Cfg → OutboundTargetResolution E) (cfg : Cfg)
    (r : DeliveryTarget E) : Prop :=
  (∀ t, r.to = some t → r.error = none ∧
    ∃ candidate, candidate ≠ "" ∧ normalize ⟨r.channel, candidate, cfg, r.accountId, r.mode⟩ = .ok t) ∧
  (∀ e, r.error = some e → r.to = none ∧
    ∃ candidate, candidate ≠ "" ∧ normalize ⟨r.channel, candidate, cfg, r.accountId, r.mode⟩ = .error e)

theorem withDocked_normalizedBy (normalize : OutboundTargetParams Cfg → OutboundTargetResolution E)
    (cfg : Cfg) {channel candidate : String} (accountId : Option String)
    (threadId : Option ThreadId) (mode : DeliveryMode) (hc : candidate ≠ "") :
    NormalizedBy normalize cfg (withDocked channel accountId threadId mode
      (normalize ⟨channel, candidate, cfg, accountId, mode⟩)) := by
  simp only [NormalizedBy, withDocked]
  generalize hd : normalize ⟨channel, candidate, cfg, accountId, mode⟩ = d
  cases d <;> simp [OutboundTargetResolution.to?, OutboundTargetResolution.error?]
  all_goals exact ⟨candidate, hc, hd⟩

theorem finishDelivery_normalizedBy (env : DeliveryCollaborators Cfg Entry E) (cfg : Cfg)
    (agentId : String) (pass : SessionPass) :
    NormalizedBy env.resolveOutboundTarget cfg (finishDelivery env cfg agentId pass) := by
  unfold finishDelivery
  split
  · simp [NormalizedBy]
  · exact withDocked_normalizedBy _ _ _ _ _ (truthyValue_eq_some.mp ‹_›).2

/-! ## Thread ids -/

theorem carriedThreadId_eq_some {resolved : SessionDeliveryTarget} {t : ThreadId}
    (h : carriedThreadId resolved = some t) :
    resolved.threadId = some t ∧
      (resolved.threadIdExplicit = true ∨ (resolved.to.isSome ∧ resolved.to = resolved.lastTo)) := by
  unfold carriedThreadId at h
  split at h
  · split at h
    · cases h
      simp only [Bool.and_eq_true, Bool.or_eq_true, beq_iff_eq] at *
      refine ⟨‹_›, ?_⟩
      rcases ‹_ ∧ _›.2 with hx | ⟨hto, heq⟩
      · exact .inl hx
      · obtain ⟨s, hs, -⟩ := isSome_of_truthy hto
        exact .inr ⟨by simp [hs], heq⟩
    · cases h
  · cases h

theorem finishDelivery_threadId (env : DeliveryCollaborators Cfg Entry E) (cfg : Cfg)
    (agentId : String) (pass : SessionPass) :
    (finishDelivery env cfg agentId pass).threadId = carriedThreadId pass.resolved := by
  unfold finishDelivery
  split <;> rfl

/-! ## The fallback channel -/

/-- The fallback tiers as the spec lists them: the origin's channel, the configured channel
(`none` when the selection throws), the session's last channel, the default. -/
def fallbackByPriority (originChannel selection lastChannel : Option String)
    (defaultChannel : String) : String :=
  ((originChannel.orElse fun _ => selection).orElse fun _ => lastChannel).getD defaultChannel

theorem sessionPass_fallbackChannel (env : DeliveryCollaborators Cfg Entry E) (cfg : Cfg)
    (agentId : String) (jobPayload : JobPayload) (used : Option CronOrigin)
    (hnone : truthy (sessionPass env cfg agentId jobPayload used).preliminary.channel = false) :
    (sessionPass env cfg agentId jobPayload used).fallbackChannel =
      some (fallbackByPriority (truthyValue (used.bind (·.channel)))
        (env.resolveMessageChannelSelection cfg)
        (sessionPass env cfg agentId jobPayload used).preliminary.lastChannel
        env.defaultChatChannel) := by
  simp only [sessionPass] at hnone ⊢
  simp only [hnone, Bool.false_eq_true, if_false]
  cases truthyValue (used.bind (·.channel)) <;> cases env.resolveMessageChannelSelection cfg <;> rfl

theorem sessionPass_calls (env : DeliveryCollaborators Cfg Entry E) (cfg : Cfg) (agentId : String)
    (jobPayload : JobPayload) (used : Option CronOrigin) :
    let pass := sessionPass env cfg agentId jobPayload used
    ∃ params : SessionDeliveryTargetParams Entry, params.fallbackChannel = none ∧
      params.mode = none ∧ pass.preliminary = env.resolveSessionDeliveryTarget params ∧
      pass.resolved = if truthy pass.fallbackChannel then
        env.resolveSessionDeliveryTarget
          { params with fallbackChannel := pass.fallbackChannel, mode := some pass.preliminary.mode }
      else pass.preliminary :=
  ⟨_, rfl, rfl, rfl, rfl⟩

theorem finishDelivery_channel (env : DeliveryCollaborators Cfg Entry E) (cfg : Cfg)
    (agentId : String) (pass : SessionPass) :
    (finishDelivery env cfg agentId pass).channel =
      (pass.resolved.channel.orElse fun _ => pass.fallbackChannel).getD env.defaultChatChannel := by
  unfold finishDelivery
  split <;> rfl

/-! ## The origin -/

theorem originInUse_eq_none_of_override {jobPayload : JobPayload} {options : ResolveOptions}
    (h : options.deliveryMode = some .current ∨ hasExplicitChannel jobPayload = true ∨
      hasExplicitTo jobPayload = true) : originInUse jobPayload options = none := by
  unfold originInUse
  split
  · rcases h with h | h | h <;> simp [h]
  · rfl

theorem hasExplicitChannel_eq_false {jobPayload : JobPayload}
    (h : jobPayload.channel = none ∨ jobPayload.channel = some "last") :
    hasExplicitChannel jobPayload = false := by
  rcases h with h | h <;> simp [hasExplicitChannel, h]

theorem hasExplicitTo_eq_false {jobPayload : JobPayload}
    (h : jobPayload.to = none ∨ ∃ s, jobPayload.to = some s ∧ trim s = "") :
    hasExplicitTo jobPayload = false := by
  rcases h with h | ⟨s, h, hs⟩
  · simp [hasExplicitTo, h]
  · simp [hasExplicitTo, h, hs]

/-! ## The theorems -/

/-- **Only normalized recipients.** On every path a recipient or an error of the result is
what `resolveOutboundTarget` returned for the result's channel, account and mode. -/
theorem resolveDeliveryTarget_normalized (env : DeliveryCollaborators Cfg Entry E) (cfg : Cfg)
    (agentId : String) (jobPayload : JobPayload) (options : ResolveOptions) :
    NormalizedBy env.resolveOutboundTarget cfg
      (resolveDeliveryTarget env cfg agentId jobPayload options) := by
  cases hs : originShortCircuit (originInUse jobPayload options) with
  | none =>
    rw [resolveDeliveryTarget_of_session hs]
    exact finishDelivery_normalizedBy _ _ _ _
  | some p =>
    obtain ⟨origin, hu, -, hto⟩ := originShortCircuit_eq_some hs
    rw [hu] at hs
    rw [resolveDeliveryTarget_of_origin hu hs]
    exact withDocked_normalizedBy _ _ _ _ _ (truthyValue_eq_some.mp hto).2

/-- **No thread-id leak.** A returned thread id is the origin's on the short-circuit, or comes
from the session resolution the result is built from, which marked it explicit or whose
recipient is its stored `lastTo`. -/
theorem resolveDeliveryTarget_threadId (env : DeliveryCollaborators Cfg Entry E) (cfg : Cfg)
    (agentId : String) (jobPayload : JobPayload) (options : ResolveOptions) (t : ThreadId)
    (h : (resolveDeliveryTarget env cfg agentId jobPayload options).threadId = some t) :
    (∃ origin, originInUse jobPayload options = some origin ∧
      (originShortCircuit (some origin)).isSome ∧ origin.threadId = some t) ∨
    let resolved := (sessionPass env cfg agentId jobPayload (originInUse jobPayload options)).resolved
    resolved.threadId = some t ∧
      (resolved.threadIdExplicit = true ∨ (resolved.to.isSome ∧ resolved.to = resolved.lastTo)) := by
  cases hs : originShortCircuit (originInUse jobPayload options) with
  | none =>
    rw [resolveDeliveryTarget_of_session hs, finishDelivery_threadId] at h
    exact .inr (carriedThreadId_eq_some h)
  | some p =>
    obtain ⟨origin, hu, -⟩ := originShortCircuit_eq_some hs
    rw [hu] at hs
    rw [resolveDeliveryTarget_of_origin hu hs] at h
    exact .inl ⟨origin, hu, by simp [hs], h⟩

/-- A machine whose stored session is a feishu conversation with `oc_1` in thread `t9`, and whose
normalizer accepts every recipient. -/
def feishuSession : DeliveryCollaborators Unit Unit String where
  resolveAgentMainSessionKey _ _ := "agent:main:main"
  loadSessionStore _ _ _ := some ()
  resolveSessionDeliveryTarget _ :=
    ⟨some "feishu", some "oc_1", none, some (.str "t9"), false, .implicit, some "feishu", some "oc_1"⟩
  resolveMessageChannelSelection _ := none
  buildChannelAccountBindings _ _ _ := none
  normalizeAgentId := id
  resolveOutboundTarget params := .ok params.to
  defaultChatChannel := "whatsapp"

theorem resolveDeliveryTarget_threadId_feishu :
    (resolveDeliveryTarget feishuSession () "main" ⟨some "last", none, none⟩ ⟨none, none⟩).threadId =
        some (.str "t9") ∧
      ((∃ origin, originInUse ⟨some "last", none, none⟩ ⟨none, none⟩ = some origin ∧
        (originShortCircuit (some origin)).isSome ∧ origin.threadId = some (.str "t9")) ∨
      let resolved := (sessionPass feishuSession () "main" ⟨some "last", none, none⟩
        (originInUse ⟨some "last", none, none⟩ ⟨none, none⟩)).resolved
      resolved.threadId = some (.str "t9") ∧
        (resolved.threadIdExplicit = true ∨ (resolved.to.isSome ∧ resolved.to = resolved.lastTo))) :=
  ⟨rfl, resolveDeliveryTarget_threadId _ _ _ _ _ _ rfl⟩

/-- **The origin short-circuit is exact.** In origin mode, with an origin channel and
recipient and no override in the payload, the result is the origin's, normalized, whatever
the store, the bindings and the channel selection. -/
theorem resolveDeliveryTarget_origin_exact (env : DeliveryCollaborators Cfg Entry E) (cfg : Cfg)
    (agentId : String) (jobPayload : JobPayload) (origin : CronOrigin)
    (deliveryMode : Option CronDeliveryMode) (channel recipient : String)
    (hmode : deliveryMode = none ∨ deliveryMode = some .origin)
    (hchannel : origin.channel = some channel) (hchannel' : channel ≠ "")
    (hto : origin.to = some recipient) (hto' : recipient ≠ "")
    (hpayloadChannel : jobPayload.channel = none ∨ jobPayload.channel = some "last")
    (hpayloadTo : jobPayload.to = none ∨ ∃ s, jobPayload.to = some s ∧ trim s = "") :
    let n := env.resolveOutboundTarget ⟨channel, recipient, cfg, origin.accountId, .explicit⟩
    resolveDeliveryTarget env cfg agentId jobPayload ⟨some origin, deliveryMode⟩ =
        ⟨channel, n.to?, origin.accountId, origin.threadId, .explicit, n.error?⟩ ∧
      ∀ env' : DeliveryCollaborators Cfg Entry E,
        env'.resolveOutboundTarget = env.resolveOutboundTarget →
          resolveDeliveryTarget env' cfg agentId jobPayload ⟨some origin, deliveryMode⟩ =
            resolveDeliveryTarget env cfg agentId jobPayload ⟨some origin, deliveryMode⟩ := by
  have hmode' : deliveryMode.getD .origin = .origin := by rcases hmode with h | h <;> simp [h]
  have hu : originInUse jobPayload ⟨some origin, deliveryMode⟩ = some origin := by
    simp [originInUse, hmode', hasExplicitChannel_eq_false hpayloadChannel,
      hasExplicitTo_eq_false hpayloadTo, hchannel, hchannel']
  have hs : originShortCircuit (some origin) = some (channel, recipient) := by
    simp [originShortCircuit, truthyValue, Option.filter, hchannel, hchannel', hto, hto']
  refine ⟨resolveDeliveryTarget_of_origin hu hs, fun env' henv => ?_⟩
  rw [resolveDeliveryTarget_of_origin hu hs, resolveDeliveryTarget_of_origin hu hs, henv]

theorem resolveDeliveryTarget_origin_exact_telegram :
    ((none : Option CronDeliveryMode) = none ∨ (none : Option CronDeliveryMode) = some .origin) ∧
      (some "telegram" = some "telegram" ∧ "telegram" ≠ "") ∧ (some "123" = some "123" ∧ "123" ≠ "") ∧
      ((none : Option String) = none ∨ (none : Option String) = some "last") ∧
      ((none : Option String) = none ∨ ∃ s, (none : Option String) = some s ∧ trim s = "") ∧
      let n := feishuSession.resolveOutboundTarget ⟨"telegram", "123", (), none, .explicit⟩
      resolveDeliveryTarget feishuSession () "main" ⟨none, none, none⟩
          ⟨some ⟨some "telegram", some "123", none, none⟩, none⟩ =
          ⟨"telegram", n.to?, none, none, .explicit, n.error?⟩ ∧
        ∀ env' : DeliveryCollaborators Unit Unit String,
          env'.resolveOutboundTarget = feishuSession.resolveOutboundTarget →
            resolveDeliveryTarget env' () "main" ⟨none, none, none⟩
                ⟨some ⟨some "telegram", some "123", none, none⟩, none⟩ =
              resolveDeliveryTarget feishuSession () "main" ⟨none, none, none⟩
                ⟨some ⟨some "telegram", some "123", none, none⟩, none⟩ :=
  ⟨.inl rfl, ⟨rfl, by decide⟩, ⟨rfl, by decide⟩, .inl rfl, .inl rfl,
    resolveDeliveryTarget_origin_exact feishuSession () "main" ⟨none, none, none⟩
      ⟨some "telegram", some "123", none, none⟩ none "telegram" "123" (.inl rfl) rfl (by decide)
      rfl (by decide) (.inl rfl) (.inl rfl)⟩

/-- **The origin is not read under an override.** In current mode, or with an explicit
channel or a non-blank recipient in the payload, two calls that differ only in the origin
return the same result. -/
theorem resolveDeliveryTarget_origin_irrelevant (env : DeliveryCollaborators Cfg Entry E)
    (cfg : Cfg) (agentId : String) (jobPayload : JobPayload)
    (deliveryMode : Option CronDeliveryMode) (origin₁ origin₂ : Option CronOrigin)
    (h : deliveryMode = some .current ∨ (∃ c, jobPayload.channel = some c ∧ c ≠ "last") ∨
      ∃ t, jobPayload.to = some t ∧ trim t ≠ "") :
    resolveDeliveryTarget env cfg agentId jobPayload ⟨origin₁, deliveryMode⟩ =
      resolveDeliveryTarget env cfg agentId jobPayload ⟨origin₂, deliveryMode⟩ := by
  have hoverride : ∀ origin, originInUse jobPayload ⟨origin, deliveryMode⟩ = none := by
    intro origin
    apply originInUse_eq_none_of_override
    rcases h with h | ⟨c, hc, hc'⟩ | ⟨t, ht, ht'⟩
    · exact .inl h
    · exact .inr (.inl (by simp [hasExplicitChannel, hc, hc']))
    · exact .inr (.inr (by simp [hasExplicitTo, ht, ht']))
  rw [resolveDeliveryTarget_of_session (by rw [hoverride]; rfl),
    resolveDeliveryTarget_of_session (by rw [hoverride]; rfl), hoverride, hoverride]

theorem resolveDeliveryTarget_origin_irrelevant_current :
    ((some .current : Option CronDeliveryMode) = some .current ∨
        (∃ c, (none : Option String) = some c ∧ c ≠ "last") ∨
        ∃ t, (none : Option String) = some t ∧ trim t ≠ "") ∧
      resolveDeliveryTarget feishuSession () "main" ⟨none, none, none⟩
          ⟨some ⟨some "telegram", some "123", none, none⟩, some .current⟩ =
        resolveDeliveryTarget feishuSession () "main" ⟨none, none, none⟩ ⟨none, some .current⟩ :=
  ⟨.inl rfl, resolveDeliveryTarget_origin_irrelevant _ _ _ _ _ _ _ (.inl rfl)⟩

/-- **The fallback channel's priority.** When the preliminary session resolution has no
channel, the fallback is the origin's channel in use, else the configured selection, else
(the selection threw) the session's last channel, else the default; the re-run is the
preliminary call with that fallback, and the result's channel is the re-run's, else the
fallback. -/
theorem resolveDeliveryTarget_fallback_priority (env : DeliveryCollaborators Cfg Entry E)
    (cfg : Cfg) (agentId : String) (jobPayload : JobPayload) (options : ResolveOptions)
    (hsession : originShortCircuit (originInUse jobPayload options) = none)
    (hnone : truthy (sessionPass env cfg agentId jobPayload
      (originInUse jobPayload options)).preliminary.channel = false) :
    let used := originInUse jobPayload options
    let pass := sessionPass env cfg agentId jobPayload used
    let fallback := fallbackByPriority (truthyValue (used.bind (·.channel)))
      (env.resolveMessageChannelSelection cfg) pass.preliminary.lastChannel env.defaultChatChannel
    pass.fallbackChannel = some fallback ∧
      (∃ params : SessionDeliveryTargetParams Entry, params.fallbackChannel = none ∧
        params.mode = none ∧ pass.preliminary = env.resolveSessionDeliveryTarget params ∧
        (fallback ≠ "" → pass.resolved = env.resolveSessionDeliveryTarget
          { params with fallbackChannel := some fallback, mode := some pass.preliminary.mode })) ∧
      (resolveDeliveryTarget env cfg agentId jobPayload options).channel =
        if fallback ≠ "" then pass.resolved.channel.getD fallback else fallback := by
  intro used pass fallback
  have hfb : pass.fallbackChannel = some fallback := sessionPass_fallbackChannel _ _ _ _ _ hnone
  obtain ⟨params, hp, hm, hpre, hres⟩ := sessionPass_calls env cfg agentId jobPayload used
  rw [hfb] at hres
  refine ⟨hfb, ⟨params, hp, hm, hpre, fun h => by simpa [h] using hres⟩, ?_⟩
  rw [resolveDeliveryTarget_of_session hsession, finishDelivery_channel, hfb]
  split
  · cases pass.resolved.channel <;> rfl
  · -- an empty fallback is never re-run, and the preliminary channel is empty or missing
    have hempty : fallback = "" := not_not.mp ‹_›
    simp only [hempty, truthy_some, bne_self_eq_false, Bool.false_eq_true, if_false] at hres
    rw [hres, hempty]
    revert hnone
    cases pass.preliminary.channel <;> simp

/-- Collaborators for the spec's scenario: no stored session, `discord` configured, and a
session resolver that answers with the fallback it is given. -/
def discordConfigured : DeliveryCollaborators Unit Unit String where
  resolveAgentMainSessionKey _ _ := "agent:main:main"
  loadSessionStore _ _ _ := none
  resolveSessionDeliveryTarget params :=
    ⟨params.fallbackChannel, none, none, none, false, params.mode.getD .implicit, none, none⟩
  resolveMessageChannelSelection _ := some "discord"
  buildChannelAccountBindings _ _ _ := none
  normalizeAgentId := id
  resolveOutboundTarget params := .ok params.to
  defaultChatChannel := "whatsapp"

theorem resolveDeliveryTarget_fallback_priority_discord :
    originShortCircuit (originInUse ⟨none, none, none⟩ ⟨none, none⟩) = none ∧
      truthy (sessionPass discordConfigured () "main" ⟨none, none, none⟩
        (originInUse ⟨none, none, none⟩ ⟨none, none⟩)).preliminary.channel = false ∧
      (sessionPass discordConfigured () "main" ⟨none, none, none⟩ none).fallbackChannel =
        some "discord" ∧
      (resolveDeliveryTarget discordConfigured () "main" ⟨none, none, none⟩ ⟨none, none⟩).channel =
        "discord" :=
  let h := resolveDeliveryTarget_fallback_priority discordConfigured () "main" ⟨none, none, none⟩
    ⟨none, none⟩ rfl rfl
  ⟨rfl, rfl, h.1, h.2.2⟩

end QverisBot.Cron
