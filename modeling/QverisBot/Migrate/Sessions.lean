import QverisBot.Migrate.Redact
import QverisBot.Js.Number
import Mathlib.Algebra.Order.Ring.Unbundled.Rat

/-! # The session summaries of the export

`buildSessionSummaries` of `src/commands/migrate/sessions-summary.ts`: the sessions of one store
that have a session id, the most recent first, as many as `slice(0, Math.max(1, maxSessions))`
keeps (none when `maxSessions` is `NaN`), each with
the redacted first user message and last message preview of its transcript. `Object.entries`
of the store is the list `store` in property order; `readSessionTitleFieldsFromTranscript` is a
parameter. `toSorted` is stable and its comparator a total preorder, so it orders as core's stable
`List.mergeSort` does.
-/

namespace QverisBot.Migrate

open QverisBot.Js

/-- An entry of the session store, with the fields the summaries read. -/
structure SessionStoreEntry where
  sessionId : Option String
  updatedAt : Option ℚ
  sessionFile : Option String

/-- What `readSessionTitleFieldsFromTranscript` returns. -/
structure SessionTitleFields where
  firstUserMessage : Option String
  lastMessagePreview : Option String

structure SessionSummaryEntry where
  sessionKey : String
  agentId : String
  sessionId : String
  updatedAt : ℚ
  firstUserMessage : Option String
  lastMessagePreview : Option String

structure SessionStoreTarget where
  agentId : String
  storePath : String

/-- `entry.updatedAt ?? 0`. -/
def SessionStoreEntry.time (entry : SessionStoreEntry) : ℚ := entry.updatedAt.getD 0

/-- The entries `.filter(([, entry]) => Boolean(entry?.sessionId))` keeps. -/
def summarizable (store : List (String × Option SessionStoreEntry)) : List (String × SessionStoreEntry) :=
  store.filterMap fun (key, entry) => entry.bind fun e => if truthy e.sessionId then some (key, e) else none

/-- The order of `toSorted((a, b) => (b.updatedAt ?? 0) - (a.updatedAt ?? 0))`: `a` may come
before `b` when it is at least as recent. -/
def newerFirst (a b : String × SessionStoreEntry) : Bool := decide (b.2.time ≤ a.2.time)

/-- `raw ? forceRedactText(raw).text : null`. -/
def redactedPreview (redact : String → String) (raw : Option String) : Option String :=
  if truthy raw then raw.map fun text => (forceRedactText redact text).text else none

/-- `buildSessionSummaries(target, maxSessions)`, with `store` what `loadSessionStore` returns
(`none` when it throws). -/
def buildSessionSummaries (redact : String → String)
    (readSessionTitleFieldsFromTranscript : String → String → Option String → String → SessionTitleFields)
    (target : SessionStoreTarget) (store : Option (List (String × Option SessionStoreEntry)))
    (maxSessions : JsNumber) : List SessionSummaryEntry :=
  match store with
  | none => []
  | some store =>
    (sliceTo ((summarizable store).mergeSort newerFirst) (JsNumber.mathMax (.finite 1) maxSessions)).map
      fun (sessionKey, entry) =>
      let fields := readSessionTitleFieldsFromTranscript (entry.sessionId.getD "") target.storePath
        entry.sessionFile target.agentId
      ⟨sessionKey, target.agentId, entry.sessionId.getD "", entry.time,
        redactedPreview redact fields.firstUserMessage,
        redactedPreview redact fields.lastMessagePreview⟩

/-! ## The order -/

theorem newerFirst_trans (a b c : String × SessionStoreEntry) :
    newerFirst a b → newerFirst b c → newerFirst a c := by
  simp only [newerFirst, decide_eq_true_eq]
  exact fun h₁ h₂ => h₂.trans h₁

theorem newerFirst_total (a b : String × SessionStoreEntry) : newerFirst a b || newerFirst b a := by
  simp only [newerFirst, Bool.or_eq_true, decide_eq_true_eq]
  exact le_total _ _

theorem sorted_newerFirst (entries : List (String × SessionStoreEntry)) :
    (entries.mergeSort newerFirst).Pairwise fun a b => newerFirst a b :=
  List.sorted_mergeSort newerFirst_trans newerFirst_total entries

section Summaries

variable (redact : String → String)
  (readSessionTitleFieldsFromTranscript : String → String → Option String → String → SessionTitleFields)
  (target : SessionStoreTarget) (store : List (String × Option SessionStoreEntry))
  (maxSessions : JsNumber)

theorem buildSessionSummaries_length :
    (buildSessionSummaries redact readSessionTitleFieldsFromTranscript target (some store) maxSessions).length =
      JsNumber.sliceEnd (summarizable store).length (JsNumber.mathMax (.finite 1) maxSessions) := by
  simp [buildSessionSummaries, JsNumber.sliceTo_length]

theorem buildSessionSummaries_ne_nil_iff (loaded : Option (List (String × Option SessionStoreEntry))) :
    buildSessionSummaries redact readSessionTitleFieldsFromTranscript target loaded maxSessions ≠ [] ↔
      maxSessions.isNaN = false ∧ ∃ store, loaded = some store ∧ summarizable store ≠ [] := by
  cases loaded with
  | none => simp [buildSessionSummaries]
  | some store =>
    rw [Ne, ← List.length_eq_zero, buildSessionSummaries_length,
      JsNumber.sliceEnd_mathMax_one_eq_zero]
    simp only [Option.some.injEq, exists_eq_left', ne_eq, ← List.length_eq_zero, not_or,
      Bool.not_eq_true]

/-- **The newest sessions, newest first.** The summaries are as many of the sessions that have
an id as `slice(0, Math.max(1, maxSessions))` keeps (`max(1, maxSessions)`, or all of them when
there are fewer, for an integer; none for `NaN`), ordered from the most recent; each is one of
those sessions, and a session with an id that is left out is no more recent than any summarized
one. Sessions updated at the same time keep their order in the store. -/
theorem buildSessionSummaries_newest :
    (buildSessionSummaries redact readSessionTitleFieldsFromTranscript target (some store) maxSessions).length =
        JsNumber.sliceEnd (summarizable store).length (JsNumber.mathMax (.finite 1) maxSessions) ∧
    (buildSessionSummaries redact readSessionTitleFieldsFromTranscript target (some store) maxSessions).Pairwise
        (fun s t => t.updatedAt ≤ s.updatedAt) ∧
    (∀ s ∈ buildSessionSummaries redact readSessionTitleFieldsFromTranscript target (some store) maxSessions,
        ∃ e ∈ summarizable store, e.1 = s.sessionKey ∧ e.2.time = s.updatedAt) ∧
    (∀ e ∈ summarizable store,
      e.1 ∉ (buildSessionSummaries redact readSessionTitleFieldsFromTranscript target (some store)
        maxSessions).map (·.sessionKey) →
      ∀ s ∈ buildSessionSummaries redact readSessionTitleFieldsFromTranscript target (some store) maxSessions,
        e.2.time ≤ s.updatedAt) ∧
    ∀ t : ℚ, List.Sublist (((buildSessionSummaries redact readSessionTitleFieldsFromTranscript target
        (some store) maxSessions).filter (·.updatedAt = t)).map (·.sessionKey))
      (((summarizable store).filter (·.2.time = t)).map (·.1)) := by
  refine ⟨buildSessionSummaries_length .., ?_⟩
  dsimp only [buildSessionSummaries, sliceTo]
  generalize JsNumber.sliceEnd _ _ = count
  have hsorted := sorted_newerFirst (summarizable store)
  have hperm := List.mergeSort_perm (summarizable store) newerFirst
  rw [← List.take_append_drop count ((summarizable store).mergeSort newerFirst),
    List.pairwise_append] at hsorted
  refine ⟨?_, ?_, ?_, ?_⟩
  · rw [List.pairwise_map]
    exact hsorted.1.imp fun h => of_decide_eq_true h
  · intro s hs
    obtain ⟨e, he, rfl⟩ := List.mem_map.mp hs
    exact ⟨e, hperm.mem_iff.mp (List.mem_of_mem_take he), rfl, rfl⟩
  · intro e he hout s hs
    obtain ⟨a, ha, rfl⟩ := List.mem_map.mp hs
    have hdrop : e ∈ ((summarizable store).mergeSort newerFirst).drop count := by
      have hmem := hperm.mem_iff.mpr he
      rw [← List.take_append_drop count ((summarizable store).mergeSort newerFirst)] at hmem
      refine (List.mem_append.mp hmem).resolve_left fun htake => hout ?_
      rw [List.map_map]
      exact List.mem_map.mpr ⟨e, htake, rfl⟩
    exact of_decide_eq_true (hsorted.2.2 a ha e hdrop)
  · intro t
    have htied : ((summarizable store).filter (·.2.time = t)).Pairwise fun a b => newerFirst a b :=
      List.pairwise_of_forall_mem_list fun a ha b hb => by
        simp only [List.mem_filter, decide_eq_true_eq] at ha hb
        simp only [newerFirst, ha.2, hb.2, le_refl, decide_True]
    have hsub := (List.sublist_mergeSort newerFirst_trans newerFirst_total htied
      (List.filter_sublist _)).filter fun e => decide (e.2.time = t)
    rw [List.filter_filter, List.filter_congr fun e _ => Bool.and_self _] at hsub
    have htie : ((summarizable store).mergeSort newerFirst).filter (·.2.time = t) =
        (summarizable store).filter (·.2.time = t) :=
      (hsub.eq_of_length (hperm.filter _).length_eq.symm).symm
    rw [List.filter_map, List.map_map, ← htie]
    exact ((List.take_sublist _ _).filter _).map _

end Summaries

end QverisBot.Migrate
