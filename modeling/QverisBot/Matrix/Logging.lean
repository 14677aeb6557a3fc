import Mathlib.Data.List.Basic

/-! # Configuring the Matrix SDK's logger once

`ensureMatrixSdkLoggingConfigured` of `src/extensions/matrix/src/matrix/client/logging.ts`. The
module holds the flag `matrixSdkLoggingConfigured` and `matrixSdkLoggingPromise`, the promise of
the configuration closure in flight. A call runs without interruption up to its first `await`;
the closure suspends at `await import(...)` and, once the import settles, runs `setLogger` (when
the import resolved) and its `finally` block without interruption.

Every interleaving of new calls, settling imports and resumed calls is a run of `loggingStep`,
so the order the event loop picks is one of them. The runs of the closure and the calls are
kept in lists, so that the model allows any number of either and "at most once" is proved, not
built in.
-/

namespace QverisBot.Matrix

/-- Where a run of the configuration closure stands. -/
inductive ClosurePc
  /-- Suspended at `await import("@vector-im/matrix-bot-sdk")`. -/
  | importing
  /-- The `finally` block ran and the closure's promise is resolved. -/
  | finished
  deriving DecidableEq, Repr

/-- Where a call of `ensureMatrixSdkLoggingConfigured` stands. -/
inductive CallPc
  /-- At `await matrixSdkLoggingPromise`, on the promise of the closure run `run`. -/
  | awaiting (run : Nat)
  /-- The call's promise is resolved. -/
  | returned
  deriving DecidableEq, Repr

structure LoggingState where
  /-- `matrixSdkLoggingConfigured`. -/
  configured : Bool
  /-- `matrixSdkLoggingPromise`: the closure run whose promise it holds. -/
  promise : Option Nat
  /-- Every run of the closure so far, in the order they started; each run calls `import`. -/
  runs : List ClosurePc
  /-- Every call so far, in the order they were made. -/
  calls : List CallPc
  /-- How many times `LogService.setLogger` ran. -/
  loggerSets : Nat
  deriving DecidableEq, Repr

def LoggingState.initial : LoggingState := ⟨false, none, [], [], 0⟩

inductive LoggingEvent
  /-- A new call, up to its first `await` or its return. -/
  | call
  /-- The import of the closure run `run` settles, resolved when `imported`. -/
  | importSettles (run : Nat) (imported : Bool)
  /-- A call continues after its `await`. -/
  | resume (caller : Nat)
  deriving DecidableEq, Repr

/-! ## The steps -/

/-- A call up to its first `await`: it returns at once when the flag is set, waits for the
promise in flight when there is one, and otherwise starts the closure and waits for it. -/
def ensureMatrixSdkLoggingConfigured (s : LoggingState) : LoggingState :=
  if s.configured then { s with calls := s.calls ++ [.returned] }
  else
    match s.promise with
    | some run => { s with calls := s.calls ++ [.awaiting run] }
    | none =>
      { s with promise := some s.runs.length, runs := s.runs ++ [.importing],
               calls := s.calls ++ [.awaiting s.runs.length] }

/-- The closure after its import settles: `setLogger` when the import resolved (a rejected one
is caught), then `finally`, which sets the flag and clears the promise. -/
def settleImport (s : LoggingState) (run : Nat) (imported : Bool) : LoggingState :=
  if s.runs[run]? = some .importing then
    { s with loggerSets := if imported then s.loggerSets + 1 else s.loggerSets,
             configured := true, promise := none, runs := s.runs.set run .finished }
  else s

/-- A call waiting on a resolved promise returns. -/
def resumeCall (s : LoggingState) (caller : Nat) : LoggingState :=
  match s.calls[caller]? with
  | some (.awaiting run) =>
    if s.runs[run]? = some .finished then { s with calls := s.calls.set caller .returned } else s
  | _ => s

def loggingStep (s : LoggingState) : LoggingEvent → LoggingState
  | .call => ensureMatrixSdkLoggingConfigured s
  | .importSettles run imported => settleImport s run imported
  | .resume caller => resumeCall s caller

def runLogging (s : LoggingState) (es : List LoggingEvent) : LoggingState :=
  es.foldl loggingStep s

/-! ## What each step can do -/

variable {s : LoggingState}

theorem ensureMatrixSdkLoggingConfigured_cases (s : LoggingState) :
    (s.configured = true ∧
        ensureMatrixSdkLoggingConfigured s = { s with calls := s.calls ++ [.returned] }) ∨
      (∃ run, s.configured = false ∧ s.promise = some run ∧
        ensureMatrixSdkLoggingConfigured s = { s with calls := s.calls ++ [.awaiting run] }) ∨
      (s.configured = false ∧ s.promise = none ∧
        ensureMatrixSdkLoggingConfigured s =
          { s with promise := some s.runs.length, runs := s.runs ++ [.importing],
                   calls := s.calls ++ [.awaiting s.runs.length] }) := by
  unfold ensureMatrixSdkLoggingConfigured
  cases hc : s.configured
  · cases hp : s.promise <;> simp
  · simp

theorem settleImport_cases (s : LoggingState) (run : Nat) (imported : Bool) :
    settleImport s run imported = s ∨
      (s.runs[run]? = some .importing ∧ settleImport s run imported =
        { s with loggerSets := if imported then s.loggerSets + 1 else s.loggerSets,
                 configured := true, promise := none, runs := s.runs.set run .finished }) := by
  unfold settleImport
  split
  · exact .inr ⟨‹_›, rfl⟩
  · exact .inl rfl

theorem resumeCall_cases (s : LoggingState) (caller : Nat) :
    resumeCall s caller = s ∨
      ∃ run, s.calls[caller]? = some (.awaiting run) ∧ s.runs[run]? = some .finished ∧
        resumeCall s caller = { s with calls := s.calls.set caller .returned } := by
  unfold resumeCall
  split
  · split
    · exact .inr ⟨_, ‹_›, ‹_›, rfl⟩
    · exact .inl rfl
  · exact .inl rfl

@[simp]
theorem settleImport_calls (run : Nat) (imported : Bool) :
    (settleImport s run imported).calls = s.calls := by
  rcases settleImport_cases s run imported with h | ⟨-, h⟩ <;> rw [h]

theorem getElem?_snoc_eq_some {α : Type} {l : List α} {c x : α} {i : Nat}
    (h : (l ++ [c])[i]? = some x) : l[i]? = some x ∨ x = c := by
  by_cases hi : i < l.length
  · exact .inl (by rwa [List.getElem?_append_left hi] at h)
  · rw [List.getElem?_append_right (by omega)] at h
    exact .inr (List.mem_singleton.mp (List.getElem?_mem h))

/-! ## The invariant -/

/-- What holds in every reachable state. -/
structure LoggingInvariant (s : LoggingState) : Prop where
  /-- The promise in flight is that of a run suspended at its import. -/
  promise_importing : ∀ run, s.promise = some run → s.runs[run]? = some .importing
  /-- A run suspended at its import is the one in flight. -/
  pending_promise : ∀ run, s.runs[run]? = some .importing → s.promise = some run
  /-- A finished run set the flag. -/
  finished_configured : ClosurePc.finished ∈ s.runs → s.configured = true
  /-- `setLogger` ran at most once per finished run. -/
  loggerSets_le : s.loggerSets ≤ s.runs.count .finished
  /-- The closure started at most once. -/
  runs_le_one : s.runs.length ≤ 1
  /-- A call waits on a run that exists. -/
  awaiting_lt : ∀ run, CallPc.awaiting run ∈ s.calls → run < s.runs.length
  /-- A call returned only with the flag set. -/
  returned_configured : CallPc.returned ∈ s.calls → s.configured = true

theorem LoggingInvariant.initial : LoggingInvariant .initial where
  promise_importing _ h := by cases h
  pending_promise _ h := by cases h
  finished_configured h := by cases h
  loggerSets_le := le_refl 0
  runs_le_one := Nat.zero_le 1
  awaiting_lt _ h := by cases h
  returned_configured h := by cases h

theorem LoggingInvariant.runs_eq_nil (h : LoggingInvariant s) (hc : s.configured = false)
    (hp : s.promise = none) : s.runs = [] := by
  cases hr : s.runs with
  | nil => rfl
  | cons r rs =>
    cases r with
    | importing =>
      have := h.pending_promise 0 (by rw [hr, List.getElem?_cons_zero])
      rw [hp] at this
      cases this
    | finished =>
      have := h.finished_configured (by rw [hr]; exact List.mem_cons_self _ _)
      rw [hc] at this
      cases this

theorem LoggingInvariant.call (h : LoggingInvariant s) :
    LoggingInvariant (ensureMatrixSdkLoggingConfigured s) := by
  rcases ensureMatrixSdkLoggingConfigured_cases s with ⟨hc, he⟩ | ⟨run, -, hp, he⟩ | ⟨hc, hp, he⟩ <;>
    rw [he]
  · exact { h with
      awaiting_lt := fun run hr => h.awaiting_lt run (by simpa using hr)
      returned_configured := fun _ => hc }
  · refine { h with
      awaiting_lt := fun r hr => ?_
      returned_configured := fun hr => h.returned_configured (by simpa using hr) }
    rcases List.mem_append.mp hr with hr | hr
    · exact h.awaiting_lt r hr
    · obtain rfl : r = run := by simpa using hr
      exact (List.getElem?_eq_some_iff.mp (h.promise_importing r hp)).1
  · have hnil := h.runs_eq_nil hc hp
    have hzero : s.loggerSets = 0 := by simpa [hnil] using h.loggerSets_le
    -- the closure starts as run 0, and the new call waits on it
    refine ⟨fun run hrun => ?_, fun run hrun => ?_, by simp [hnil], by simp [hnil, hzero],
      by simp [hnil], fun run hrun => ?_, fun hr => ?_⟩
    · cases hrun
      simp [hnil]
    · cases run with
      | zero => simp [hnil]
      | succ k => simp [hnil] at hrun
    · rcases List.mem_append.mp hrun with hrun | hrun
      · simpa [hnil] using h.awaiting_lt run hrun
      · simp_all
    · rcases List.mem_append.mp hr with hr | hr
      · exact h.returned_configured hr
      · simp at hr

theorem LoggingInvariant.settleImport (h : LoggingInvariant s) (run : Nat) (imported : Bool) :
    LoggingInvariant (settleImport s run imported) := by
  rcases settleImport_cases s run imported with he | ⟨himp, he⟩ <;> rw [he]
  · exact h
  obtain ⟨hlt, hget⟩ := List.getElem?_eq_some_iff.mp himp
  have hcount : (s.runs.set run .finished).count .finished = s.runs.count .finished + 1 := by
    rw [List.count_set _ _ _ _ hlt, hget]
    simp
  refine ⟨fun _ hp => Option.noConfusion hp, fun r hr => ?_, fun _ => rfl, ?_, ?_, ?_, fun _ => rfl⟩
  · have hne : r ≠ run := by
      rintro rfl
      simp [hlt] at hr
    rw [List.getElem?_set_ne (Ne.symm hne)] at hr
    have := (h.pending_promise r hr).symm.trans (h.pending_promise run himp)
    exact absurd (Option.some.inj this) hne
  · have := h.loggerSets_le
    split <;> simp only [hcount] <;> omega
  · simpa using h.runs_le_one
  · simpa using h.awaiting_lt

theorem LoggingInvariant.resumeCall (h : LoggingInvariant s) (caller : Nat) :
    LoggingInvariant (resumeCall s caller) := by
  rcases resumeCall_cases s caller with he | ⟨run, -, hfin, he⟩ <;> rw [he]
  · exact h
  have hconf := h.finished_configured (List.getElem?_mem hfin)
  refine { h with awaiting_lt := fun r hr => ?_, returned_configured := fun _ => hconf }
  rcases List.mem_or_eq_of_mem_set hr with hr | hr
  · exact h.awaiting_lt r hr
  · cases hr

theorem LoggingInvariant.step (h : LoggingInvariant s) :
    ∀ e, LoggingInvariant (loggingStep s e)
  | .call => h.call
  | .importSettles run imported => h.settleImport run imported
  | .resume caller => h.resumeCall caller

theorem LoggingInvariant.run (h : LoggingInvariant s) (es : List LoggingEvent) :
    LoggingInvariant (runLogging s es) := by
  induction es generalizing s with
  | nil => exact h
  | cons e es ih => exact ih (h.step e)

/-! ## Returning -/

theorem loggingStep_returned (h : LoggingInvariant s) (e : LoggingEvent) (i : Nat)
    (hret : (loggingStep s e).calls[i]? = some .returned) (hbefore : s.calls[i]? ≠ some .returned) :
    s.configured = true := by
  cases e with
  | call =>
    rcases ensureMatrixSdkLoggingConfigured_cases s with ⟨hc, -⟩ | ⟨run, -, -, he⟩ | ⟨-, -, he⟩
    · exact hc
    all_goals
      rw [loggingStep, he] at hret
      rcases getElem?_snoc_eq_some hret with hret | hret
      · exact absurd hret hbefore
      · cases hret
  | importSettles run imported =>
    rw [loggingStep, settleImport_calls] at hret
    exact absurd hret hbefore
  | resume caller =>
    rcases resumeCall_cases s caller with he | ⟨run, -, hfin, -⟩
    · rw [loggingStep, he] at hret
      exact absurd hret hbefore
    · exact h.finished_configured (List.getElem?_mem hfin)

theorem loggingStep_configured (hc : s.configured = true) :
    ∀ e, (loggingStep s e).configured = true
  | .call => by
    rcases ensureMatrixSdkLoggingConfigured_cases s with ⟨-, he⟩ | ⟨_, -, -, he⟩ | ⟨-, -, he⟩ <;>
      rw [loggingStep, he] <;> exact hc
  | .importSettles run imported => by
    rcases settleImport_cases s run imported with he | ⟨-, he⟩ <;> rw [loggingStep, he]
    exact hc
  | .resume caller => by
    rcases resumeCall_cases s caller with he | ⟨_, -, -, he⟩ <;> rw [loggingStep, he] <;> exact hc

theorem awaiting_call_returns (h : LoggingInvariant s) {i run : Nat}
    (hi : s.calls[i]? = some (.awaiting run)) (imported : Bool) :
    (runLogging s [.importSettles run imported, .resume i]).calls[i]? = some .returned := by
  have hlt := h.awaiting_lt run (List.getElem?_mem hi)
  have hfin : (settleImport s run imported).runs[run]? = some .finished := by
    cases hr : s.runs[run]? with
    | none => simp [hlt] at hr
    | some r => cases r <;> simp [settleImport, hr, hlt]
  have hcall : (settleImport s run imported).calls[i]? = some (.awaiting run) := by
    rw [settleImport_calls, hi]
  have hilt : i < s.calls.length := (List.getElem?_eq_some_iff.mp hi).1
  show (resumeCall (settleImport s run imported) i).calls[i]? = _
  simp only [resumeCall, hcall, hfin, if_true]
  simp [hilt]

/-! ## The theorems -/

/-- **The SDK's logger is configured at most once, and no call returns before it is.** In every
state reachable by any interleaving of any number of calls, the closure has started at most
once (and so has the SDK's import), and `setLogger` has run at most once; every call that has
returned did so with `matrixSdkLoggingConfigured` set; from there, whatever the next step, the
flag stays set and a call that returns in it returns from a state where the flag is set; and a
waiting call returns once the import it waits on settles. -/
theorem ensureMatrixSdkLoggingConfigured_once (es : List LoggingEvent) (e : LoggingEvent) :
    let s := runLogging .initial es
    s.runs.length ≤ 1 ∧ s.loggerSets ≤ 1 ∧
      (∀ i : Nat, s.calls[i]? = some CallPc.returned → s.configured = true) ∧
      (s.configured = true → (loggingStep s e).configured = true) ∧
      (∀ i : Nat, (loggingStep s e).calls[i]? = some CallPc.returned → s.calls[i]? ≠ some CallPc.returned →
        s.configured = true) ∧
      (∀ (i run : Nat) (imported : Bool), s.calls[i]? = some (CallPc.awaiting run) →
        (runLogging s [.importSettles run imported, .resume i]).calls[i]? = some CallPc.returned) := by
  intro s
  have h : LoggingInvariant s := LoggingInvariant.initial.run es
  refine ⟨h.runs_le_one, ?_, fun _ hi => h.returned_configured (List.getElem?_mem hi),
    fun hc => loggingStep_configured hc e, fun i => loggingStep_returned h e i,
    fun _ _ imported hi => awaiting_call_returns h hi imported⟩
  calc s.loggerSets ≤ s.runs.count .finished := h.loggerSets_le
    _ ≤ s.runs.length := List.count_le_length _ _
    _ ≤ 1 := h.runs_le_one

end QverisBot.Matrix
