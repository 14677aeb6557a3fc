import QverisBot.Hooks.MemoryHooks
import QverisBot.Migrate.Progress

/-! # An event handled twice

A hook can be handed the same event again. Both bundled memory hooks then leave the disk as the
first call left it: the second call reads what the first read, its `mkdir` finds the directories
already made, and its write puts back the text already there. The one proviso is that a hook's
own file is not among what it reads: the smart-memory transcript lies outside
`memory/important`, and the rolling summary is neither the session store nor a transcript the
store names.
-/

namespace QverisBot.Hooks

open QverisBot.Js QverisBot.Node QverisBot.Migrate

variable {Cfg : Type}

/-! ## The file system -/

theorem readFile_mkdirAlong (qs : List String) (fs : FileSystem) (p : String) :
    readFile (mkdirAlong fs qs).1 p = readFile fs p := by
  unfold readFile
  rcases mkdirAlong_eq_or_dir (normalize p) qs fs with h | h <;> rw [h]
  rcases hp : fs (normalize p) with _ | ⟨c | _⟩
  · rfl
  · exact nomatch h.symm.trans (mkdirAlong_keepsEntries qs fs _ _ hp)
  · rfl

theorem mkdirAlong_cons_dir {fs : FileSystem} {q : String} (qs : List String)
    (h : fs q = some .dir) : mkdirAlong fs (q :: qs) = mkdirAlong fs qs := by
  rw [mkdirAlong, h]

theorem mkdirAlong_idem : ∀ (qs : List String) (fs : FileSystem),
    mkdirAlong (mkdirAlong fs qs).1 qs = mkdirAlong fs qs
  | [], _ => rfl
  | q :: qs, fs => by
    rcases hq : fs q with _ | ⟨c | _⟩
    · have hstep : mkdirAlong fs (q :: qs) = mkdirAlong (Function.update fs q (some .dir)) qs := by
        rw [mkdirAlong, hq]
      rw [hstep, mkdirAlong_cons_dir qs (mkdirAlong_keepsEntries qs _ q .dir (Function.update_same _ _ _))]
      exact mkdirAlong_idem qs _
    · have hstep : mkdirAlong fs (q :: qs) = (fs, false) := by rw [mkdirAlong, hq]
      rw [hstep]
      exact hstep
    · rw [mkdirAlong_cons_dir qs hq, mkdirAlong_cons_dir qs (mkdirAlong_keepsEntries qs fs q .dir hq)]
      exact mkdirAlong_idem qs fs

theorem mkdirRecursive_idem (fs : FileSystem) (d : String) :
    mkdirRecursive (mkdirRecursive fs d).1 d = mkdirRecursive fs d :=
  mkdirAlong_idem (ancestorPaths d) fs

theorem canWriteAt_update_file {fs : FileSystem} {k content : String} (hcan : canWriteAt fs k = true) :
    canWriteAt (Function.update fs k (some (.file content))) k = true := by
  simp only [canWriteAt, Bool.and_eq_true, bne_iff_ne, ne_eq, Function.update_same] at hcan ⊢
  refine ⟨nofun, ?_⟩
  rcases hpar : parentPath? k with _ | parent
  · rfl
  · simp only [hpar, beq_iff_eq] at hcan ⊢
    have hne : parent ≠ k := fun h => hcan.1 (h ▸ hcan.2)
    rw [Function.update_noteq hne]
    exact hcan.2

theorem writeFile_idem {fs fs' : FileSystem} {p content : String}
    (hw : writeFile fs p content = some fs') : writeFile fs' p content = some fs' := by
  unfold writeFile at hw
  split at hw
  · next hcan =>
    cases hw
    rw [writeFile_eq_some (canWriteAt_update_file hcan), Function.update_idem]
  · cases hw

theorem join_entryName_not_mem_ancestorPaths (d : String) {name : String}
    (h : isEntryName name = true) : normalize (join [d, name]) ∉ ancestorPaths d := fun hmem => by
  obtain ⟨i, hi, hq⟩ := location_of_mem_ancestorPaths hmem
  rw [location_normalize, location_join_entryName d h] at hq
  have hlen := congrArg (fun l => l.2.length) hq
  simp only [List.length_append, List.length_singleton, List.length_take] at hlen
  omega

theorem mkdirRecursive_after_write {fs fs' : FileSystem} {d name content : String}
    (hname : isEntryName name = true) (hmk : (mkdirRecursive fs d).2 = true)
    (hw : writeFile (mkdirRecursive fs d).1 (join [d, name]) content = some fs') :
    mkdirRecursive fs' d = (fs', true) := by
  obtain ⟨rfl, -⟩ := writeFile_inv hw
  refine mkdirAlong_of_dirs _ _ fun q hq => ?_
  have hne : q ≠ normalize (join [d, name]) := fun h =>
    join_entryName_not_mem_ancestorPaths d hname (h ▸ hq)
  rw [Function.update_noteq hne]
  exact mkdirAlong_dirs_of_ok _ fs hmk q hq

/-! ## Smart memory -/

section smart

variable {env : SmartMemoryEnv Cfg} {fs : FileSystem} {event : HookEvent Cfg}
  {sessionId : String} {msgs : List ParsedMessage} {c : Classification}

theorem readFile_saveImportant {p : String}
    (hp : ¬ isWithin (join [workspaceDirOf env event, "memory", "important"]) p) :
    readFile (saveImportant env fs event sessionId msgs c) p = readFile fs p := by
  have hF : isWithin (join [workspaceDirOf env event, "memory", "important"])
      (importantFilePath (workspaceDirOf env event) (isoDate event.timestamp)
        (generateSlug env.unicode msgs)) :=
    isWithin_join_entryName _ (isEntryName_importantName env.unicode event.timestamp msgs)
  have hne : normalize p ≠ normalize (importantFilePath (workspaceDirOf env event)
      (isoDate event.timestamp) (generateSlug env.unicode msgs)) := fun h =>
    hp (by rw [← isWithin_normalize_iff, h, isWithin_normalize_iff]; exact hF)
  simp only [saveImportant, mkdirRecursive]
  split
  · exact readFile_mkdirAlong _ fs p
  · cases hw : writeFile _ _ _
    · exact readFile_mkdirAlong _ fs p
    · rw [Option.getD_some, ← readFile_mkdirAlong _ fs p]
      unfold readFile
      rw [writeFile_frame hw hne]

theorem saveImportant_idem :
    saveImportant env (saveImportant env fs event sessionId msgs c) event sessionId msgs c =
      saveImportant env fs event sessionId msgs c := by
  rcases hmk : mkdirRecursive fs (join [workspaceDirOf env event, "memory", "important"]) with
    ⟨fsm, made⟩
  have hagain := mkdirRecursive_idem fs (join [workspaceDirOf env event, "memory", "important"])
  rw [hmk] at hagain
  cases made
  · have hfirst : saveImportant env fs event sessionId msgs c = fsm := by
      simp only [saveImportant, hmk, Bool.not_false, if_true]
    rw [hfirst]
    simp only [saveImportant, hagain, Bool.not_false, if_true]
  · cases hw : writeFile fsm (importantFilePath (workspaceDirOf env event) (isoDate event.timestamp)
        (generateSlug env.unicode msgs)) (buildImportantMemoryMarkdown env.unicode
          ⟨c.category, c.matchedKeywords, msgs, isoDate event.timestamp, event.sessionKey, sessionId⟩) with
    | none =>
      have hfirst : saveImportant env fs event sessionId msgs c = fsm := by
        simp only [saveImportant, hmk, hw, Bool.not_true, Bool.false_eq_true, if_false, Option.getD_none]
      rw [hfirst]
      simp only [saveImportant, hagain, hw, Bool.not_true, Bool.false_eq_true, if_false, Option.getD_none]
    | some fs' =>
      have hfirst : saveImportant env fs event sessionId msgs c = fs' := by
        simp only [saveImportant, hmk, hw, Bool.not_true, Bool.false_eq_true, if_false, Option.getD_some]
      have hdirs := mkdirRecursive_after_write (isEntryName_importantName env.unicode event.timestamp msgs)
        (by rw [hmk]) (by rw [hmk]; exact hw)
      rw [hfirst]
      simp only [saveImportant, hdirs, writeFile_idem hw, Bool.not_true, Bool.false_eq_true, if_false,
        Option.getD_some]

end smart

/-! ## Rolling memory -/

section rolling

variable {env : RollingCollectorEnv} {fs fs' : FileSystem} {k : String}

theorem entryMessages_congr {cutoff : ℚ} {entry : JsonValue}
    (h : ∀ f ∈ JsonValue.string? (entry.field "sessionFile"), fs' (normalize f) = fs (normalize f)) :
    entryMessages env fs' cutoff entry = entryMessages env fs cutoff entry := by
  rcases hf : entry.field "sessionFile" with _ | ⟨_ | _ | _ | f | _ | _⟩ <;>
    simp only [entryMessages, hf]
  simp only [parseTranscriptMessages, readFile, h f (by simp [hf, JsonValue.string?])]

theorem foldlM_collectStep_congr {cutoff : ℚ} : ∀ (entries : List (String × JsonValue)),
    (∀ e ∈ entries, entryMessages env fs' cutoff e.2 = entryMessages env fs cutoff e.2) →
    ∀ acc, entries.foldlM (collectStep env fs' cutoff) acc = entries.foldlM (collectStep env fs cutoff) acc
  | [], _, _ => rfl
  | e :: es, h, _ => by
    have hrest := foldlM_collectStep_congr es fun e' he' => h e' (List.mem_cons_of_mem _ he')
    simp only [List.foldlM_cons, collectStep, h e (List.mem_cons_self _ _), hrest]

theorem collectRecentMessages_congr {storePath : String} {days : ℚ} {now : TimeValue}
    (hk : ∀ p, p ≠ k → fs' p = fs p) (hstore : normalize storePath ≠ k)
    (htranscripts : ∀ entry ∈ loadSessionStoreSimple fs storePath,
      ∀ f ∈ JsonValue.string? (entry.2.field "sessionFile"), normalize f ≠ k) :
    collectRecentMessages env fs' storePath days now = collectRecentMessages env fs storePath days now := by
  have hload : loadSessionStoreSimple fs' storePath = loadSessionStoreSimple fs storePath := by
    simp only [loadSessionStoreSimple, readFile, hk _ hstore]
  unfold collectRecentMessages
  rw [hload]
  exact foldlM_collectStep_congr _ (fun e he => entryMessages_congr fun f hf => hk _ (htranscripts e he f hf)) _

end rolling

/-! ## The rolling-memory handler -/

section hook

variable {env : RollingMemoryHookEnv Cfg} {fs : FileSystem} {event : RollingHookEvent Cfg}

theorem rollingMemoryHandler_untriggered (h : rollingTriggered event = false) :
    rollingMemoryHandler env fs event = fs := by
  unfold rollingMemoryHandler
  rw [h]
  rfl

theorem rollingMemoryHandler_of_mkdir {g : FileSystem} {made : Bool} (htrig : rollingTriggered event = true)
    (hmk : mkdirRecursive fs (rollingMemoryDir env event) = (g, made)) :
    rollingMemoryHandler env fs event =
      if !made then g else
      if resolveStorePath env event.storePath = "" then g else
      match collectRecentMessages env.toRollingCollectorEnv g (resolveStorePath env event.storePath)
          (rollingDays (env.resolveHookConfig event.cfg "rolling-memory")) event.timestamp with
      | none => g
      | some byDate =>
        (writeFile g (rollingFile env event) (buildRollingMarkdown env.localeCompare byDate event.timestamp)).getD g := by
  unfold rollingMemoryHandler
  rw [hmk, htrig]
  rfl

end hook

/-! ## The theorems -/

/-- **Smart memory handles a repeated event as a no-op.** Whatever the disk, a second call on
the same `/new` event leaves it as the first call left it, as long as the session's transcript
is not inside `memory/important`. -/
theorem smartMemoryHandler_idempotent (env : SmartMemoryEnv Cfg) (fs : FileSystem)
    (event : HookEvent Cfg)
    (htranscript : ∀ f ∈ (sessionEntryOf event).sessionFile,
      ¬ isWithin (join [workspaceDirOf env event, "memory", "important"]) f) :
    smartMemoryHandler env (smartMemoryHandler env fs event) event = smartMemoryHandler env fs event := by
  cases htrig : (event.type != "command" || event.action != "new")
  case true => simp only [smartMemoryHandler, htrig, if_true]
  rcases hsf : (sessionEntryOf event).sessionFile.filter (· != "") with _ | sf
  · simp only [smartMemoryHandler, htrig, hsf, Bool.false_eq_true, if_false]
  have hread := htranscript sf ((Option.filter_eq_some.mp hsf).1)
  by_cases hnil : getRecentSessionMessages fs sf
      (messageCount (env.resolveHookConfig event.context.cfg "smart-memory")) = []
  · simp only [smartMemoryHandler, htrig, hsf, hnil, Bool.false_eq_true, if_false, if_true]
  by_cases hroutine : (classifyConversation env.unicode.cases ("\n".intercalate ((getRecentSessionMessages fs sf
      (messageCount (env.resolveHookConfig event.context.cfg "smart-memory"))).map (·.text)))).category =
        .routine
  · simp only [smartMemoryHandler, htrig, hsf, hnil, hroutine, Bool.false_eq_true, if_false, if_true]
  have hfirst : smartMemoryHandler env fs event = saveImportant env fs event
      (((sessionEntryOf event).sessionId.filter (· != "")).getD "unknown")
      (getRecentSessionMessages fs sf (messageCount (env.resolveHookConfig event.context.cfg "smart-memory")))
      (classifyConversation env.unicode.cases ("\n".intercalate ((getRecentSessionMessages fs sf
        (messageCount (env.resolveHookConfig event.context.cfg "smart-memory"))).map (·.text)))) := by
    simp only [smartMemoryHandler, htrig, hsf, hnil, hroutine, Bool.false_eq_true, if_false]
  have hsame : ∀ sessionId msgs c n,
      getRecentSessionMessages (saveImportant env fs event sessionId msgs c) sf n =
        getRecentSessionMessages fs sf n := fun _ _ _ _ => by
    simp only [getRecentSessionMessages, readFile_saveImportant hread]
  rw [hfirst]
  simp only [smartMemoryHandler, htrig, hsf, hsame, hnil, hroutine, Bool.false_eq_true, if_false]
  exact saveImportant_idem

theorem smartMemoryHandler_idempotent_sample :
    (∀ f ∈ (sessionEntryOf closeSessionA).sessionFile,
      ¬ isWithin (join [workspaceDirOf sampleEnv closeSessionA, "memory", "important"]) f) ∧
    smartMemoryHandler sampleEnv (smartMemoryHandler sampleEnv sessionTranscripts closeSessionA)
        closeSessionA = smartMemoryHandler sampleEnv sessionTranscripts closeSessionA :=
  by refine ⟨?h, smartMemoryHandler_idempotent sampleEnv sessionTranscripts closeSessionA ?h⟩; decide

/-- **Rolling memory handles a repeated event as a no-op.** Whatever the disk, a second call on
the same event leaves it as the first call left it, as long as `rolling-7d.md` is neither the
session store nor a transcript the store names. -/
theorem rollingMemoryHandler_idempotent (env : RollingMemoryHookEnv Cfg) (fs : FileSystem)
    (event : RollingHookEvent Cfg)
    (hstore : normalize (resolveStorePath env event.storePath) ≠ normalize (rollingFile env event))
    (htranscripts : ∀ entry ∈ loadSessionStoreSimple fs (resolveStorePath env event.storePath),
      ∀ f ∈ JsonValue.string? (entry.2.field "sessionFile"), normalize f ≠ normalize (rollingFile env event)) :
    rollingMemoryHandler env (rollingMemoryHandler env fs event) event = rollingMemoryHandler env fs event := by
  cases htrig : rollingTriggered event
  case false => rw [rollingMemoryHandler_untriggered htrig, rollingMemoryHandler_untriggered htrig]
  rcases hmk : mkdirRecursive fs (rollingMemoryDir env event) with ⟨fsm, made⟩
  have hagain := mkdirRecursive_idem fs (rollingMemoryDir env event)
  rw [hmk] at hagain
  rw [rollingMemoryHandler_of_mkdir htrig hmk]
  cases made
  case false =>
    simp only [Bool.not_false, if_true]
    rw [rollingMemoryHandler_of_mkdir htrig hagain]
    simp only [Bool.not_false, if_true]
  by_cases hsp : resolveStorePath env event.storePath = ""
  · simp only [hsp, Bool.not_true, Bool.false_eq_true, if_true, if_false]
    rw [rollingMemoryHandler_of_mkdir htrig hagain]
    simp only [hsp, Bool.not_true, Bool.false_eq_true, if_true, if_false]
  cases hcol : collectRecentMessages env.toRollingCollectorEnv fsm (resolveStorePath env event.storePath)
      (rollingDays (env.resolveHookConfig event.cfg "rolling-memory")) event.timestamp with
  | none =>
    simp only [hsp, hcol, Bool.not_true, Bool.false_eq_true, if_false]
    rw [rollingMemoryHandler_of_mkdir htrig hagain]
    simp only [hsp, hcol, Bool.not_true, Bool.false_eq_true, if_false]
  | some byDate =>
    cases hw : writeFile fsm (rollingFile env event)
        (buildRollingMarkdown env.localeCompare byDate event.timestamp) with
    | none =>
      simp only [hsp, hcol, hw, Bool.not_true, Bool.false_eq_true, if_false, Option.getD_none]
      rw [rollingMemoryHandler_of_mkdir htrig hagain]
      simp only [hsp, hcol, hw, Bool.not_true, Bool.false_eq_true, if_false, Option.getD_none]
    | some fs' =>
      have hdirs : mkdirRecursive fs' (rollingMemoryDir env event) = (fs', true) :=
        mkdirRecursive_after_write (show isEntryName "rolling-7d.md" = true by decide) (by rw [hmk])
          (by rw [hmk]; exact hw)
      have hload : loadSessionStoreSimple fsm (resolveStorePath env event.storePath) =
          loadSessionStoreSimple fs (resolveStorePath env event.storePath) := by
        have hread := readFile_mkdirAlong (ancestorPaths (rollingMemoryDir env event)) fs
        unfold mkdirRecursive at hmk
        simp only [loadSessionStoreSimple, hmk] at hread ⊢
        rw [hread]
      have hcol' : collectRecentMessages env.toRollingCollectorEnv fs' (resolveStorePath env event.storePath)
          (rollingDays (env.resolveHookConfig event.cfg "rolling-memory")) event.timestamp = some byDate := by
        rw [collectRecentMessages_congr (fun _ hp => writeFile_frame hw hp) hstore
          (fun entry he => htranscripts entry (hload ▸ he)), hcol]
      simp only [hsp, hcol, hw, Bool.not_true, Bool.false_eq_true, if_false, Option.getD_some]
      rw [rollingMemoryHandler_of_mkdir htrig hdirs]
      simp only [hsp, hcol', writeFile_idem hw, Bool.not_true, Bool.false_eq_true, if_false, Option.getD_some]

theorem rollingMemoryHandler_idempotent_sample :
    normalize (resolveStorePath sampleRollingEnv closeSampleSession.storePath) ≠
      normalize (rollingFile sampleRollingEnv closeSampleSession) ∧
    (∀ entry ∈ loadSessionStoreSimple sampleSessionDisk (resolveStorePath sampleRollingEnv closeSampleSession.storePath),
      ∀ f ∈ JsonValue.string? (entry.2.field "sessionFile"),
        normalize f ≠ normalize (rollingFile sampleRollingEnv closeSampleSession)) ∧
    rollingMemoryHandler sampleRollingEnv (rollingMemoryHandler sampleRollingEnv sampleSessionDisk closeSampleSession)
        closeSampleSession = rollingMemoryHandler sampleRollingEnv sampleSessionDisk closeSampleSession := by
  refine ⟨?h1, ?h2, rollingMemoryHandler_idempotent sampleRollingEnv sampleSessionDisk closeSampleSession
    ?h1 ?h2⟩ <;> decide

end QverisBot.Hooks
