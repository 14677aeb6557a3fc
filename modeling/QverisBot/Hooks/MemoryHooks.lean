import QverisBot.Hooks.RollingSummary
import QverisBot.Migrate.Place

/-! # The two memory hooks side by side

Both bundled memory hooks write into `memory/` of the agent's workspace: smart-memory
(`src/hooks/bundled/smart-memory/handler.ts`) under `memory/important/`, rolling-memory
(appended to `src/cron/isolated-agent/delivery-target.ts`) the file `memory/rolling-7d.md`.
On one workspace neither ever changes what the other writes. The proof compares locations:
`important` and `rolling-7d.md` are two names in `memory`, and an important file's name (its
date, its slug and `.md`) is a single segment.
-/

namespace QverisBot.Hooks

open QverisBot.Js QverisBot.Node QverisBot.Migrate

variable {Cfg : Type}

/-! ## Locations -/

theorem location_join_three (base : String) {a b : String} (ha : isEntryName a = true)
    (hb : isEntryName b = true) :
    location (join [base, a, b]) = ((location base).1, (location base).2 ++ [a.data, b.data]) := by
  have ha0 : a ≠ "" := by rintro rfl; exact absurd ha (by decide)
  have hb0 : b ≠ "" := by rintro rfl; exact absurd hb (by decide)
  have hinner := location_join_entryName base ha
  by_cases hbase : base = ""
  · subst hbase
    have hj : join ["", a, b] = join [a, b] := by simp [join, ha0, hb0]
    have ha' : location a = location (join ["", a]) := by
      rw [show join ["", a] = normalize a by simp [join, ha0], location_normalize]
    rw [hj, location_join_entryName a hb, ha', hinner, List.append_assoc]
    rfl
  · have hsep : base ++ "/" ++ a ≠ "" := fun h => by
      have h' : base.data ++ ['/'] ++ a.data = [] := congrArg String.data h
      simp at h'
    have hj : join [base, a, b] = join [base ++ "/" ++ a, b] := by
      rw [join_pair hsep hb0]
      simp [join, hbase, ha0, hb0]
    rw [hj, location_join_entryName _ hb, ← location_normalize (base ++ "/" ++ a),
      ← join_pair hbase ha0, hinner, List.append_assoc]
    rfl

theorem location_of_mem_ancestorPaths {d q : String} (h : q ∈ ancestorPaths d) :
    ∃ i < (location d).2.length, location q = ((location d).1, (location d).2.take (i + 1)) := by
  rw [ancestorPaths_eq, List.mem_map] at h
  obtain ⟨i, hi, rfl⟩ := h
  exact ⟨i, List.mem_range.mp hi, location_ancestor d (List.mem_range.mp hi)⟩

theorem isEntryName_importantName (u : UnicodeCategories) (t : TimeValue)
    (messages : List ParsedMessage) :
    isEntryName (isoDate t ++ "-" ++ generateSlug u messages ++ ".md") = true := by
  obtain ⟨-, -, hsafe⟩ := generateSlug_shape u messages
  have hslash : '/' ∉ (isoDate t ++ "-" ++ generateSlug u messages ++ ".md").data :=
    not_mem_append (not_mem_append (not_mem_append
      (not_mem_isoDate (by decide) (by decide) (by decide) t) (by decide))
      fun h => (hsafe _ h).2.1 rfl) (by decide)
  have hname : isName (isoDate t ++ "-" ++ generateSlug u messages ++ ".md").data = true := by
    rw [String.data_append]
    generalize (isoDate t ++ "-" ++ generateSlug u messages).data = cs
    rcases cs with _ | ⟨c, cs⟩
    · rfl
    · simp [isName, dotdot, List.append_eq_cons_iff]
  simp only [isEntryName, hname, hslash, not_false_eq_true, decide_True, Bool.and_self]

theorem location_importantFilePath (ws : String) (u : UnicodeCategories) (t : TimeValue)
    (messages : List ParsedMessage) :
    location (importantFilePath ws (isoDate t) (generateSlug u messages)) =
      ((location ws).1, (location ws).2 ++ ["memory".data, "important".data,
        (isoDate t ++ "-" ++ generateSlug u messages ++ ".md").data]) := by
  rw [importantFilePath, location_join_entryName _ (isEntryName_importantName u t messages),
    location_join_three ws (by decide) (by decide), List.append_assoc]
  rfl

theorem location_rollingSummary (ws : String) :
    location (join [join [ws, "memory"], "rolling-7d.md"]) =
      ((location ws).1, (location ws).2 ++ ["memory".data, "rolling-7d.md".data]) := by
  rw [location_join_entryName _ (by decide), location_join_entryName _ (by decide),
    List.append_assoc]
  rfl

/-! ## One call -/

theorem append_pair_ne_take {W : List Segment} {m r k : Segment} (hrk : r ≠ k) (i : Nat) :
    W ++ [m, r] ≠ (W ++ [m, k]).take (i + 1) := fun h => by
  have hlen := congrArg List.length h
  have hle : (W ++ [m, k]).length ≤ i + 1 := by
    simp only [List.length_append, List.length_cons, List.length_nil, List.length_take] at hlen ⊢
    omega
  rw [List.take_of_length_le hle] at h
  exact hrk (by simpa using h)

theorem smartMemoryHandler_rollingSummary {senv : SmartMemoryEnv Cfg} {fs : FileSystem}
    {event : HookEvent Cfg} {ws : String} (hws : workspaceDirOf senv event = ws) :
    smartMemoryHandler senv fs event (normalize (join [join [ws, "memory"], "rolling-7d.md"])) =
      fs (normalize (join [join [ws, "memory"], "rolling-7d.md"])) := by
  by_contra hp
  have hloc := location_rollingSummary ws
  subst hws
  rcases smartMemoryHandler_frame hp with hanc | ⟨messages, heq⟩
  · obtain ⟨i, -, hq⟩ := location_of_mem_ancestorPaths hanc
    rw [location_normalize, hloc, location_join_three _ (by decide) (by decide)] at hq
    exact append_pair_ne_take (by decide) i (Prod.ext_iff.mp hq).2
  · have hlen := congrArg (fun q => (location q).2.length) heq
    dsimp only at hlen
    rw [location_normalize, location_normalize, hloc, location_importantFilePath] at hlen
    simp only [List.length_append, List.length_cons, List.length_nil] at hlen
    omega

theorem rollingMemoryHandler_important {renv : RollingMemoryHookEnv Cfg} {fs : FileSystem}
    {event : RollingHookEvent Cfg} {ws : String} (hws : rollingWorkspaceDir renv event = ws)
    {p : String} (hp : isWithin (join [ws, "memory", "important"]) p) :
    rollingMemoryHandler renv fs event p = fs p := by
  by_contra hne
  have hpre := hp.2
  rw [location_join_three _ (by decide) (by decide)] at hpre
  rcases rollingMemoryHandler_frame hne with hanc | heq
  · obtain ⟨i, hi, hq⟩ := location_of_mem_ancestorPaths hanc
    have hlen := hpre.length_le
    rw [hq, rollingMemoryDir, hws, location_join_entryName _ (by decide)] at hlen
    simp only [List.length_append, List.length_cons, List.length_nil, List.length_take] at hlen
    omega
  · rw [heq, location_normalize, rollingFile, rollingMemoryDir, hws, location_rollingSummary] at hpre
    have heq' := hpre.eq_of_length (by simp)
    simp at heq'

/-! ## Runs -/

theorem smartMemoryRun_rollingSummary {senv : SmartMemoryEnv Cfg} {ws : String} :
    ∀ (events : List (HookEvent Cfg)) (fs : FileSystem), (∀ e ∈ events, workspaceDirOf senv e = ws) →
      smartMemoryRun senv fs events (normalize (join [join [ws, "memory"], "rolling-7d.md"])) =
        fs (normalize (join [join [ws, "memory"], "rolling-7d.md"]))
  | [], _, _ => rfl
  | e :: events, _, hws =>
    (smartMemoryRun_rollingSummary events _ fun e' he' => hws e' (List.mem_cons_of_mem _ he')).trans
      (smartMemoryHandler_rollingSummary (hws e (List.mem_cons_self _ _)))

theorem rollingMemoryRun_important {renv : RollingMemoryHookEnv Cfg} {ws p : String}
    (hp : isWithin (join [ws, "memory", "important"]) p) :
    ∀ (events : List (RollingHookEvent Cfg)) (fs : FileSystem),
      (∀ e ∈ events, rollingWorkspaceDir renv e = ws) → rollingMemoryRun renv fs events p = fs p
  | [], _, _ => rfl
  | e :: events, _, hws =>
    (rollingMemoryRun_important hp events _ fun e' he' => hws e' (List.mem_cons_of_mem _ he')).trans
      (rollingMemoryHandler_important (hws e (List.mem_cons_self _ _)) hp)

/-! ## The theorems -/

/-- **The memory hooks never touch each other's files.** On one workspace, any run of the
smart-memory hook leaves `memory/rolling-7d.md` as it was, and any run of the rolling-memory
hook leaves everything inside `memory/important` as it was. -/
theorem memoryHooks_disjoint (senv : SmartMemoryEnv Cfg) (renv : RollingMemoryHookEnv Cfg)
    (ws : String) (smartEvents : List (HookEvent Cfg)) (rollingEvents : List (RollingHookEvent Cfg))
    (hsmart : ∀ e ∈ smartEvents, workspaceDirOf senv e = ws)
    (hrolling : ∀ e ∈ rollingEvents, rollingWorkspaceDir renv e = ws) (fs : FileSystem) :
    smartMemoryRun senv fs smartEvents (normalize (join [join [ws, "memory"], "rolling-7d.md"])) =
        fs (normalize (join [join [ws, "memory"], "rolling-7d.md"])) ∧
      ∀ p, isWithin (join [ws, "memory", "important"]) p →
        rollingMemoryRun renv fs rollingEvents p = fs p :=
  ⟨smartMemoryRun_rollingSummary smartEvents fs hsmart,
    fun _ hp => rollingMemoryRun_important hp rollingEvents fs hrolling⟩

theorem memoryHooks_disjoint_sample :
    (∀ e ∈ [closeSessionA, closeSessionB], workspaceDirOf sampleEnv e = "/w") ∧
    (∀ e ∈ [closeSampleSession], rollingWorkspaceDir sampleRollingEnv e = "/w") ∧
    smartMemoryRun sampleEnv sessionTranscripts [closeSessionA, closeSessionB]
        (normalize (join [join ["/w", "memory"], "rolling-7d.md"])) =
      sessionTranscripts (normalize (join [join ["/w", "memory"], "rolling-7d.md"])) ∧
    ∀ p, isWithin (join ["/w", "memory", "important"]) p →
      rollingMemoryRun sampleRollingEnv sessionTranscripts [closeSampleSession] p = sessionTranscripts p :=
  by refine ⟨?h1, ?h2, memoryHooks_disjoint sampleEnv sampleRollingEnv "/w" _ _ ?h1 ?h2 sessionTranscripts⟩
    <;> decide

end QverisBot.Hooks
