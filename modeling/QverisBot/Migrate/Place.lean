import QverisBot.Migrate.Import
import QverisBot.Migrate.Redact
import QverisBot.Hooks.SmartMemory.Handler

/-! # Placing the bundle

Step 4 of `migrateImport`: each agent's workspace, then the managed and the personal skills,
copied out of the extracted bundle by the import's `copyDirRecursive`, which merges the bundle's
tree into what is already on disk. Without `--overwrite` anything already at a file's place is
kept; with it, a file there is replaced. The bundle is the tree `readdir` lists under the
extraction directory, which the copy only reads; the disk is the file system of the smart-memory
hook, where a missing parent or a directory in the way makes a write throw.
-/

namespace QverisBot.Migrate

open QverisBot.Node QverisBot.Hooks

/-! ## The copy -/

namespace Import

mutual
/-- `copyDirRecursive(src, dest, overwrite)` over the entries `readdir(src)` lists, in order.
The first error stops the copy, and what was copied so far stays. -/
def copyDirRecursive (overwrite : Bool) (dest : String) :
    List (String × FsNode) → FileSystem → FileSystem × Bool
  | [], fs => (fs, true)
  | (name, node) :: entries, fs =>
    let copied := copyDirEntry overwrite (join [dest, name]) node fs
    if copied.2 then copyDirRecursive overwrite dest entries copied.1 else copied

/-- The loop's body for one entry, copied to `destPath`: a directory is made and copied into, a
regular file is copied unless `overwrite` is off and `access(destPath)` finds something there,
and anything else is passed over. -/
def copyDirEntry (overwrite : Bool) (destPath : String) : FsNode → FileSystem → FileSystem × Bool
  | .dir entries, fs =>
    let made := mkdirRecursive fs destPath
    if made.2 then copyDirRecursive overwrite destPath entries made.1 else made
  | .file content, fs =>
    if !overwrite && (fs (normalize destPath)).isSome then (fs, true)
    else match writeFile fs destPath content with
      | some written => (written, true)
      | none => (fs, false)
  | .other, fs => (fs, true)
end

end Import

/-- What `placeAgentWorkspace`, `placeManagedSkills` and `placePersonalSkills` do once `stat` has
looked at the source: nothing when it is missing, else `mkdir(target, { recursive: true })` and
`copyDirRecursive(source, target, overwrite)`, whose `readdir` throws on anything but a
directory. -/
def WorkspaceCopy.run (copy : WorkspaceCopy) (source : Option FsNode) (fs : FileSystem) :
    FileSystem × Bool :=
  match source with
  | none => (fs, true)
  | some node =>
    let made := mkdirRecursive fs copy.target
    if made.2 then
      match node with
      | .dir entries => Import.copyDirRecursive copy.overwrite copy.target entries made.1
      | _ => (made.1, false)
    else made

/-- `placeManagedSkills`: the bundle's `managed-skills` into `<CONFIG_DIR>/skills`. -/
def placeManagedSkills (extractDir configDir : String) (overwrite : Bool) : WorkspaceCopy :=
  ⟨join [extractDir, "managed-skills"], join [configDir, "skills"], overwrite⟩

/-- `placePersonalSkills`: the bundle's `personal-skills` into `~/.agents/skills`. -/
def placePersonalSkills (extractDir homedir : String) (overwrite : Bool) : WorkspaceCopy :=
  ⟨join [extractDir, "personal-skills"], join [homedir, ".agents", "skills"], overwrite⟩

/-- The copies of step 4 of `migrateImport`, in order: each agent's workspace, then the managed
and the personal skills when the manifest's flags are set. -/
def placementCopies (env : ImportEnv) (configDir homedir : String) (workspaceOpt : Option String)
    (overwrite : Bool) (agents : List MigrateAgentManifest)
    (hasManagedSkills hasPersonalSkills : Bool) : List WorkspaceCopy :=
  placeWorkspaces env workspaceOpt overwrite agents ++
    (if hasManagedSkills then [placeManagedSkills (extractDir env) configDir overwrite] else []) ++
    (if hasPersonalSkills then [placePersonalSkills (extractDir env) homedir overwrite] else [])

/-- The copies run one after another, each source looked up in the extracted bundle; an error
ends the import where it stands. -/
def placeBundle (bundleAt : String → Option FsNode) :
    List WorkspaceCopy → FileSystem → FileSystem × Bool
  | [], fs => (fs, true)
  | copy :: copies, fs =>
    let placed := copy.run (bundleAt copy.source) fs
    if placed.2 then placeBundle bundleAt copies placed.1 else placed

/-! ## Trees `readdir` can list -/

mutual
/-- Every name in the tree is one `readdir` can list, and no directory lists a name twice. -/
def FsNode.wellNamed : FsNode → Bool
  | .dir entries => FsNode.entriesWellNamed entries
  | _ => true

def FsNode.entriesWellNamed : List (String × FsNode) → Bool
  | [] => true
  | (name, node) :: entries =>
    isEntryName name && entries.all (·.1 != name) && node.wellNamed &&
      FsNode.entriesWellNamed entries
end

mutual
/-- The files of a tree copied to `destPath`: where each lands, and its content. -/
def FsNode.filesAt (destPath : String) : FsNode → List (String × String)
  | .dir entries => FsNode.entriesFilesAt destPath entries
  | .file content => [(destPath, content)]
  | .other => []

def FsNode.entriesFilesAt (dest : String) : List (String × FsNode) → List (String × String)
  | [] => []
  | (name, node) :: entries =>
    node.filesAt (join [dest, name]) ++ FsNode.entriesFilesAt dest entries
end

mutual
/-- The tree is on disk at `destPath`: each directory, with the directories above it, and
something at the place of each file. -/
def FsNode.Placed (fs : FileSystem) (destPath : String) : FsNode → Prop
  | .dir entries =>
    (∀ q ∈ ancestorPaths destPath, fs q = some .dir) ∧ FsNode.EntriesPlaced fs destPath entries
  | .file _ => (fs (normalize destPath)).isSome = true
  | .other => True

def FsNode.EntriesPlaced (fs : FileSystem) (dest : String) : List (String × FsNode) → Prop
  | [] => True
  | (name, node) :: entries =>
    node.Placed fs (join [dest, name]) ∧ FsNode.EntriesPlaced fs dest entries
end

theorem FsNode.entriesWellNamed_cons {name : String} {node : FsNode}
    {entries : List (String × FsNode)} :
    FsNode.entriesWellNamed ((name, node) :: entries) = true ↔
      isEntryName name = true ∧ (∀ e ∈ entries, e.1 ≠ name) ∧ node.wellNamed = true ∧
        FsNode.entriesWellNamed entries = true := by
  simp [FsNode.entriesWellNamed, and_assoc]

theorem FsNode.isEntryName_of_mem {entries : List (String × FsNode)}
    (h : FsNode.entriesWellNamed entries = true) {e : String × FsNode} (he : e ∈ entries) :
    isEntryName e.1 = true := by
  induction entries with
  | nil => cases he
  | cons head entries ih =>
    obtain ⟨hn, -, -, hrest⟩ := FsNode.entriesWellNamed_cons.mp h
    rcases List.mem_cons.mp he with rfl | he
    · exact hn
    · exact ih hrest he

mutual
theorem FsNode.filesAt_isWithin {destPath : String} :
    ∀ {node : FsNode}, node.wellNamed = true → ∀ f ∈ node.filesAt destPath, isWithin destPath f.1
  | .dir entries, hw, f, hf => by
    obtain ⟨e, he, hin⟩ := FsNode.entriesFilesAt_isWithin hw f hf
    exact isWithin_trans (isWithin_join_entryName destPath (FsNode.isEntryName_of_mem hw he)) hin
  | .file _, _, f, hf => by
    rw [FsNode.filesAt, List.mem_singleton] at hf
    exact hf ▸ isWithin_refl destPath
  | .other, _, _, hf => by cases hf

theorem FsNode.entriesFilesAt_isWithin {dest : String} :
    ∀ {entries : List (String × FsNode)}, FsNode.entriesWellNamed entries = true →
      ∀ f ∈ FsNode.entriesFilesAt dest entries, ∃ e ∈ entries, isWithin (join [dest, e.1]) f.1
  | [], _, _, hf => by cases hf
  | (name, node) :: entries, hw, f, hf => by
    obtain ⟨-, -, hwn, hwe⟩ := FsNode.entriesWellNamed_cons.mp hw
    rcases List.mem_append.mp hf with hf | hf
    · exact ⟨(name, node), List.mem_cons_self _ _, FsNode.filesAt_isWithin hwn f hf⟩
    · obtain ⟨e, he, hin⟩ := FsNode.entriesFilesAt_isWithin hwe f hf
      exact ⟨e, List.mem_cons_of_mem _ he, hin⟩
end

/-! ## What a step may change -/

/-- Every entry of `fs` is in `fs'`, unchanged. -/
def Keeps (fs fs' : FileSystem) : Prop := ∀ k e, fs k = some e → fs' k = some e

/-- Nothing of `fs` is gone from `fs'`, and its directories are still directories. -/
structure Grows (fs fs' : FileSystem) : Prop where
  isSome : ∀ k, (fs k).isSome = true → (fs' k).isSome = true
  dir : ∀ k, fs k = some .dir → fs' k = some .dir

/-- Every entry `fs'` changes from `fs` lies inside one of `roots`, or is a directory made where
`fs` had nothing, above one of them. -/
def ChangesUnder (roots : List String) (fs fs' : FileSystem) : Prop :=
  ∀ k, fs' k ≠ fs k →
    ∃ r ∈ roots, isWithin r k ∨ (isWithin k r ∧ fs k = none ∧ fs' k = some .dir)

section Relations

variable {fs fs₁ fs₂ : FileSystem} {roots roots' : List String}

theorem Keeps.grows (h : Keeps fs fs') : Grows fs fs' where
  isSome k hk := by
    obtain ⟨e, he⟩ := Option.isSome_iff_exists.mp hk
    rw [h k e he]; rfl
  dir k := h k .dir

theorem ChangesUnder.refl (roots : List String) (fs : FileSystem) : ChangesUnder roots fs fs :=
  fun _ h => absurd rfl h

theorem ChangesUnder.trans (h₁ : ChangesUnder roots fs fs₁) (h₂ : ChangesUnder roots fs₁ fs₂) :
    ChangesUnder roots fs fs₂ := by
  intro k hk
  by_cases h : fs₁ k = fs k
  · obtain ⟨r, hr, hw⟩ := h₂ k (by rwa [h])
    exact ⟨r, hr, hw.imp_right fun ⟨ha, hn, hd⟩ => ⟨ha, h ▸ hn, hd⟩⟩
  · obtain ⟨r, hr, hw | ⟨ha, hn, hd⟩⟩ := h₁ k h
    · exact ⟨r, hr, .inl hw⟩
    · by_cases h' : fs₂ k = fs₁ k
      · exact ⟨r, hr, .inr ⟨ha, hn, h'.trans hd⟩⟩
      · obtain ⟨r', hr', hw' | ⟨-, hn', -⟩⟩ := h₂ k h'
        · exact ⟨r', hr', .inl hw'⟩
        · exact absurd (hd.symm.trans hn') (by simp)

theorem ChangesUnder.mono (h : ChangesUnder roots fs fs')
    (hr : ∀ r ∈ roots, ∃ r' ∈ roots', isWithin r' r) : ChangesUnder roots' fs fs' := by
  intro k hk
  obtain ⟨r, hmem, hw⟩ := h k hk
  obtain ⟨r', hmem', hr'⟩ := hr r hmem
  rcases hw with hw | ⟨ha, hn, hd⟩
  · exact ⟨r', hmem', .inl (isWithin_trans hr' hw)⟩
  · exact ⟨r', hmem', (isWithin_or_isWithin hr' ha).imp id fun h => ⟨h, hn, hd⟩⟩

theorem ChangesUnder.mono_subset (h : ChangesUnder roots fs fs') (hsub : roots ⊆ roots') :
    ChangesUnder roots' fs fs' :=
  h.mono fun r hr => ⟨r, hsub hr, isWithin_refl r⟩

theorem ChangesUnder.eq_of_apart {k : String} (h : ChangesUnder roots fs fs')
    (hk : ∀ r ∈ roots, ¬ isWithin r k ∧ ¬ isWithin k r) : fs' k = fs k :=
  by_contra fun hne =>
    let ⟨r, hr, hw⟩ := h k hne
    hw.elim (hk r hr).1 fun h' => (hk r hr).2 h'.1

mutual
theorem FsNode.Placed.mono {fs fs' : FileSystem} (h : Grows fs fs') :
    ∀ {destPath : String} {node : FsNode}, node.Placed fs destPath → node.Placed fs' destPath
  | _, .dir _, hp => ⟨fun q hq => h.dir q (hp.1 q hq), FsNode.EntriesPlaced.mono h hp.2⟩
  | _, .file _, hp => h.isSome _ hp
  | _, .other, hp => hp

theorem FsNode.EntriesPlaced.mono {fs fs' : FileSystem} (h : Grows fs fs') :
    ∀ {dest : String} {entries : List (String × FsNode)},
      FsNode.EntriesPlaced fs dest entries → FsNode.EntriesPlaced fs' dest entries
  | _, [], hp => hp
  | _, _ :: _, hp => ⟨FsNode.Placed.mono h hp.1, FsNode.EntriesPlaced.mono h hp.2⟩
end

end Relations

/-! ## Directories and writes -/

theorem ancestorPaths_eq (p : String) :
    ancestorPaths p = (List.range (location p).2.length).map fun i =>
      ⟨(if isAbsolute p then ['/'] else []) ++ ['/'].intercalate ((location p).2.take (i + 1))⟩ :=
  rfl

theorem location_ancestor (p : String) {i : Nat} (hi : i < (location p).2.length) :
    location ⟨(if isAbsolute p then ['/'] else []) ++ ['/'].intercalate ((location p).2.take (i + 1))⟩ =
      (isAbsolute p, (location p).2.take (i + 1)) := by
  have hne : (location p).2.take (i + 1) ≠ [] := by
    rw [Ne, List.take_eq_nil_iff, not_or]
    exact ⟨i.succ_ne_zero, List.ne_nil_of_length_pos (Nat.zero_lt_of_lt hi)⟩
  simpa using location_render false hne
    (fun _ hs => slash_not_mem_of_mem_location (List.mem_of_mem_take hs))
    (fun _ hs => ne_nil_of_mem_location (List.mem_of_mem_take hs))
    (normalizeSegments_take_location p (i + 1))

theorem isWithin_of_mem_ancestorPaths {p q : String} (h : q ∈ ancestorPaths p) : isWithin q p := by
  rw [ancestorPaths_eq, List.mem_map] at h
  obtain ⟨i, hi, rfl⟩ := h
  rw [isWithin, location_ancestor p (List.mem_range.mp hi)]
  exact ⟨rfl, List.take_prefix _ _⟩

theorem mkdirAlong_keepsEntries :
    ∀ (qs : List String) (fs : FileSystem), Keeps fs (mkdirAlong fs qs).1
  | [], _ => fun _ _ h => h
  | q :: qs, fs => by
    unfold mkdirAlong
    split
    · exact fun _ _ h => h
    · exact mkdirAlong_keepsEntries qs fs
    · next hq =>
      intro k e hk
      refine mkdirAlong_keepsEntries qs _ k e ?_
      rwa [Function.update_noteq (by rintro rfl; simp [hk] at hq)]

theorem mkdirAlong_eq_or_dir (k : String) :
    ∀ (qs : List String) (fs : FileSystem), (mkdirAlong fs qs).1 k = fs k ∨ (mkdirAlong fs qs).1 k = some .dir
  | [], _ => .inl rfl
  | q :: qs, fs => by
    unfold mkdirAlong
    split
    · exact .inl rfl
    · exact mkdirAlong_eq_or_dir k qs fs
    · rcases mkdirAlong_eq_or_dir k qs (Function.update fs q (some .dir)) with h | h
      · rw [h]
        by_cases hk : k = q
        · subst hk; exact .inr (Function.update_same _ _ _)
        · exact .inl (Function.update_noteq hk _ _)
      · exact .inr h

theorem mkdirAlong_dirs_of_ok :
    ∀ (qs : List String) (fs : FileSystem), (mkdirAlong fs qs).2 = true →
      ∀ q ∈ qs, (mkdirAlong fs qs).1 q = some .dir
  | [], _, _, _, hq => by cases hq
  | q :: qs, fs, hok, q', hq' => by
    unfold mkdirAlong at hok ⊢
    split at hok
    · cases hok
    · next hq =>
      rcases List.mem_cons.mp hq' with rfl | hq'
      · exact mkdirAlong_keepsEntries qs fs _ _ hq
      · exact mkdirAlong_dirs_of_ok qs fs hok q' hq'
    · rcases List.mem_cons.mp hq' with rfl | hq'
      · exact mkdirAlong_keepsEntries qs _ _ _ (Function.update_same _ _ _)
      · exact mkdirAlong_dirs_of_ok qs _ hok q' hq'

theorem mkdirAlong_of_dirs :
    ∀ (qs : List String) (fs : FileSystem), (∀ q ∈ qs, fs q = some .dir) → mkdirAlong fs qs = (fs, true)
  | [], _, _ => rfl
  | q :: qs, fs, h => by
    rw [mkdirAlong, h q (List.mem_cons_self _ _)]
    exact mkdirAlong_of_dirs qs fs fun q' hq' => h q' (List.mem_cons_of_mem _ hq')

theorem mkdirRecursive_changes (fs : FileSystem) (p : String) :
    ChangesUnder [p] fs (mkdirRecursive fs p).1 := by
  intro k hk
  have hmem : k ∈ ancestorPaths p := by_contra fun h => hk (mkdirAlong_frame _ fs h)
  refine ⟨p, List.mem_singleton_self _, .inr ⟨isWithin_of_mem_ancestorPaths hmem, ?_,
    (mkdirAlong_eq_or_dir k _ fs).resolve_left hk⟩⟩
  cases he : fs k with
  | none => rfl
  | some e => exact absurd (mkdirAlong_keepsEntries _ fs k e he) (he ▸ hk)

theorem writeFile_inv {fs fs' : FileSystem} {p content : String}
    (hw : writeFile fs p content = some fs') :
    fs' = Function.update fs (normalize p) (some (.file content)) ∧ fs (normalize p) ≠ some .dir := by
  unfold writeFile at hw
  split at hw
  · next hcan =>
    refine ⟨(Option.some.inj hw).symm, fun hd => ?_⟩
    simp [canWriteAt, hd] at hcan
  · cases hw

theorem writeFile_grows {fs fs' : FileSystem} {p content : String}
    (hw : writeFile fs p content = some fs') : Grows fs fs' := by
  obtain ⟨rfl, hnd⟩ := writeFile_inv hw
  constructor
  · intro k hk
    by_cases hkp : k = normalize p
    · rw [hkp, Function.update_same]; rfl
    · rwa [Function.update_noteq hkp]
  · intro k hk
    rwa [Function.update_noteq (by rintro rfl; exact hnd hk)]

theorem writeFile_changes {fs fs' : FileSystem} {p content : String}
    (hw : writeFile fs p content = some fs') : ChangesUnder [p] fs fs' := by
  intro k hk
  have hkp : k = normalize p := by_contra fun h => hk (writeFile_frame hw h)
  exact ⟨p, List.mem_singleton_self _, .inl (hkp ▸ isWithin_normalize_iff.mpr (isWithin_refl p))⟩

/-! ## Whatever each step keeps, the copy keeps -/

/-- What each step of a copy must keep for the whole copy to keep `R`: `R` holds from a file
system to itself and composes, and holds across each `mkdir` and each write the copy makes. -/
structure StepRel (overwrite : Bool) (R : FileSystem → FileSystem → Prop) : Prop where
  refl : ∀ fs, R fs fs
  trans : ∀ {fs₁ fs₂ fs₃}, R fs₁ fs₂ → R fs₂ fs₃ → R fs₁ fs₃
  mkdir : ∀ fs p, R fs (mkdirRecursive fs p).1
  write : ∀ {fs fs'} p content, (!overwrite && (fs (normalize p)).isSome) = false →
    writeFile fs p content = some fs' → R fs fs'

namespace Import

mutual
theorem copyDirEntry_rel {ov : Bool} {R : FileSystem → FileSystem → Prop} (hR : StepRel ov R) :
    ∀ (destPath : String) (node : FsNode) (fs : FileSystem), R fs (copyDirEntry ov destPath node fs).1
  | destPath, .dir entries, fs => by
    simp only [copyDirEntry]
    split
    · exact hR.trans (hR.mkdir fs destPath) (copyDirRecursive_rel hR destPath entries _)
    · exact hR.mkdir fs destPath
  | destPath, .file content, fs => by
    simp only [copyDirEntry]
    split
    · exact hR.refl fs
    · next hskip =>
      split
      · next hw => exact hR.write destPath content (by simpa using hskip) hw
      · exact hR.refl fs
  | _, .other, fs => hR.refl fs

theorem copyDirRecursive_rel {ov : Bool} {R : FileSystem → FileSystem → Prop} (hR : StepRel ov R) :
    ∀ (dest : String) (entries : List (String × FsNode)) (fs : FileSystem),
      R fs (copyDirRecursive ov dest entries fs).1
  | _, [], fs => hR.refl fs
  | dest, (name, node) :: entries, fs => by
    simp only [copyDirRecursive]
    split
    · exact hR.trans (copyDirEntry_rel hR _ node fs) (copyDirRecursive_rel hR dest entries _)
    · exact copyDirEntry_rel hR _ node fs
end

end Import

theorem StepRel.grows (ov : Bool) : StepRel ov Grows where
  refl _ := ⟨fun _ h => h, fun _ h => h⟩
  trans h₁ h₂ := ⟨fun k h => h₂.isSome k (h₁.isSome k h), fun k h => h₂.dir k (h₁.dir k h)⟩
  mkdir fs _ := (mkdirAlong_keepsEntries _ fs).grows
  write _ _ _ hw := writeFile_grows hw

theorem StepRel.keeps : StepRel false Keeps where
  refl _ _ _ h := h
  trans h₁ h₂ k e h := h₂ k e (h₁ k e h)
  mkdir fs _ := mkdirAlong_keepsEntries _ fs
  write := fun {fs _} p _ hskip hw => by
    obtain ⟨rfl, -⟩ := writeFile_inv hw
    intro k e hk
    have hnone : fs (normalize p) = none := by simpa using hskip
    rwa [Function.update_noteq (by rintro rfl; simp [hnone] at hk)]

/-! ## Where the copy writes -/

namespace Import

mutual
theorem copyDirEntry_changes (ov : Bool) :
    ∀ (destPath : String) (node : FsNode) (fs : FileSystem), node.wellNamed = true →
      ChangesUnder [destPath] fs (copyDirEntry ov destPath node fs).1
  | destPath, .dir entries, fs, hw => by
    simp only [copyDirEntry]
    split
    · refine (mkdirRecursive_changes fs destPath).trans
        ((copyDirRecursive_changes ov destPath entries _ hw).mono fun r hr => ?_)
      obtain ⟨e, he, rfl⟩ := List.mem_map.mp hr
      exact ⟨destPath, List.mem_singleton_self _,
        isWithin_join_entryName destPath (FsNode.isEntryName_of_mem hw he)⟩
    · exact mkdirRecursive_changes fs destPath
  | destPath, .file content, fs, _ => by
    simp only [copyDirEntry]
    split
    · exact .refl _ _
    · split
      · next hw => exact writeFile_changes hw
      · exact .refl _ _
  | _, .other, fs, _ => .refl _ _

theorem copyDirRecursive_changes (ov : Bool) :
    ∀ (dest : String) (entries : List (String × FsNode)) (fs : FileSystem),
      FsNode.entriesWellNamed entries = true →
        ChangesUnder (entries.map fun e => join [dest, e.1]) fs (copyDirRecursive ov dest entries fs).1
  | _, [], fs, _ => .refl _ _
  | dest, (name, node) :: entries, fs, hw => by
    obtain ⟨-, -, hwn, hwe⟩ := FsNode.entriesWellNamed_cons.mp hw
    have h₁ : ChangesUnder (((name, node) :: entries).map fun e => join [dest, e.1]) fs
        (copyDirEntry ov (join [dest, name]) node fs).1 :=
      (copyDirEntry_changes ov _ node fs hwn).mono_subset (by simp)
    simp only [copyDirRecursive]
    split
    · exact h₁.trans ((copyDirRecursive_changes ov dest entries _ hwe).mono_subset
        (List.subset_cons_self _ _))
    · exact h₁
end

mutual
theorem copyDirEntry_files (ov : Bool) :
    ∀ (destPath : String) (node : FsNode) (fs : FileSystem), node.wellNamed = true →
      (copyDirEntry ov destPath node fs).2 = true → ∀ f ∈ node.filesAt destPath,
        (copyDirEntry ov destPath node fs).1 (normalize f.1) =
          if !ov && (fs (normalize f.1)).isSome then fs (normalize f.1) else some (.file f.2)
  | destPath, .dir entries, fs, hw, hok, f, hf => by
    by_cases hmade : (mkdirRecursive fs destPath).2 = true
    · simp only [copyDirEntry, hmade, if_true] at hok ⊢
      obtain ⟨e, he, hin⟩ := FsNode.entriesFilesAt_isWithin hw f hf
      have hout : normalize f.1 ∉ ancestorPaths destPath := fun hm =>
        not_isWithin_of_isWithin_join (FsNode.isEntryName_of_mem hw he)
          (isWithin_normalize_iff.mpr hin) (isWithin_of_mem_ancestorPaths hm)
      rw [copyDirRecursive_files ov destPath entries _ hw hok f hf, mkdirRecursive,
        mkdirAlong_frame _ fs hout]
    · simp [copyDirEntry, hmade] at hok
  | destPath, .file content, fs, _, hok, f, hf => by
    rw [FsNode.filesAt, List.mem_singleton] at hf
    subst hf
    by_cases hskip : (!ov && (fs (normalize destPath)).isSome) = true
    · simp only [copyDirEntry, hskip, if_true]
    · simp only [copyDirEntry, hskip, if_false] at hok ⊢
      cases hw : writeFile fs destPath content with
      | none => simp [hw] at hok
      | some written => simp [(writeFile_inv hw).1]
  | _, .other, _, _, _, _, hf => by cases hf

theorem copyDirRecursive_files (ov : Bool) :
    ∀ (dest : String) (entries : List (String × FsNode)) (fs : FileSystem),
      FsNode.entriesWellNamed entries = true → (copyDirRecursive ov dest entries fs).2 = true →
      ∀ f ∈ FsNode.entriesFilesAt dest entries,
        (copyDirRecursive ov dest entries fs).1 (normalize f.1) =
          if !ov && (fs (normalize f.1)).isSome then fs (normalize f.1) else some (.file f.2)
  | _, [], _, _, _, _, hf => by cases hf
  | dest, (name, node) :: entries, fs, hw, hok, f, hf => by
    obtain ⟨hn, hfresh, hwn, hwe⟩ := FsNode.entriesWellNamed_cons.mp hw
    by_cases h₁ : (copyDirEntry ov (join [dest, name]) node fs).2 = true
    · simp only [copyDirRecursive, h₁, if_true] at hok ⊢
      rcases List.mem_append.mp hf with hf | hf
      · -- a file of this entry: the later entries are elsewhere
        have hin := isWithin_normalize_iff.mpr (FsNode.filesAt_isWithin hwn f hf)
        rw [(copyDirRecursive_changes ov dest entries _ hwe).eq_of_apart fun r hr => ?_,
          copyDirEntry_files ov _ node fs hwn h₁ f hf]
        obtain ⟨e, he, rfl⟩ := List.mem_map.mp hr
        exact apart_of_isWithin_sibling dest hn (FsNode.isEntryName_of_mem hwe he)
          (hfresh e he).symm hin
      · -- a file of a later entry: this entry is elsewhere
        obtain ⟨e, he, hin⟩ := FsNode.entriesFilesAt_isWithin hwe f hf
        have hsame : (copyDirEntry ov (join [dest, name]) node fs).1 (normalize f.1) =
            fs (normalize f.1) :=
          (copyDirEntry_changes ov _ node fs hwn).eq_of_apart fun r hr => by
            rw [List.mem_singleton.mp hr]
            exact apart_of_isWithin_sibling dest (FsNode.isEntryName_of_mem hwe he) hn
              (hfresh e he) (isWithin_normalize_iff.mpr hin)
        rw [copyDirRecursive_files ov dest entries _ hwe hok f hf, hsame]
    · simp [copyDirRecursive, h₁] at hok
end

mutual
theorem copyDirEntry_placed (ov : Bool) :
    ∀ (destPath : String) (node : FsNode) (fs : FileSystem),
      (copyDirEntry ov destPath node fs).2 = true → node.Placed (copyDirEntry ov destPath node fs).1 destPath
  | destPath, .dir entries, fs, hok => by
    by_cases hmade : (mkdirRecursive fs destPath).2 = true
    · simp only [copyDirEntry, hmade, if_true] at hok ⊢
      exact ⟨fun q hq => (copyDirRecursive_rel (StepRel.grows ov) destPath entries _).dir q
          (mkdirAlong_dirs_of_ok _ fs hmade q hq),
        copyDirRecursive_placed ov destPath entries _ hok⟩
    · simp [copyDirEntry, hmade] at hok
  | destPath, .file content, fs, hok => by
    by_cases hskip : (!ov && (fs (normalize destPath)).isSome) = true
    · simp only [copyDirEntry, hskip, if_true]
      exact (Bool.and_eq_true _ _).mp hskip |>.2
    · simp only [copyDirEntry, hskip, if_false] at hok ⊢
      cases hw : writeFile fs destPath content with
      | none => simp [hw] at hok
      | some written => simp [FsNode.Placed, (writeFile_inv hw).1]
  | _, .other, _, _ => trivial

theorem copyDirRecursive_placed (ov : Bool) :
    ∀ (dest : String) (entries : List (String × FsNode)) (fs : FileSystem),
      (copyDirRecursive ov dest entries fs).2 = true →
        FsNode.EntriesPlaced (copyDirRecursive ov dest entries fs).1 dest entries
  | _, [], _, _ => trivial
  | dest, (name, node) :: entries, fs, hok => by
    by_cases h₁ : (copyDirEntry ov (join [dest, name]) node fs).2 = true
    · simp only [copyDirRecursive, h₁, if_true] at hok ⊢
      exact ⟨(copyDirEntry_placed ov _ node fs h₁).mono
          (copyDirRecursive_rel (StepRel.grows ov) dest entries _),
        copyDirRecursive_placed ov dest entries _ hok⟩
    · simp [copyDirRecursive, h₁] at hok
end

mutual
theorem copyDirEntry_of_placed :
    ∀ (destPath : String) (node : FsNode) (fs : FileSystem), node.Placed fs destPath →
      copyDirEntry false destPath node fs = (fs, true)
  | destPath, .dir entries, fs, hp => by
    simp only [copyDirEntry, mkdirRecursive, mkdirAlong_of_dirs _ fs hp.1, if_true]
    exact copyDirRecursive_of_placed destPath entries fs hp.2
  | destPath, .file _, fs, hp => by
    have h : (fs (normalize destPath)).isSome = true := hp
    simp [copyDirEntry, h]
  | _, .other, _, _ => rfl

theorem copyDirRecursive_of_placed :
    ∀ (dest : String) (entries : List (String × FsNode)) (fs : FileSystem),
      FsNode.EntriesPlaced fs dest entries → copyDirRecursive false dest entries fs = (fs, true)
  | _, [], _, _ => rfl
  | dest, (name, node) :: entries, fs, hp => by
    simp only [copyDirRecursive, copyDirEntry_of_placed _ node fs hp.1, if_true]
    exact copyDirRecursive_of_placed dest entries fs hp.2
end

end Import

/-! ## One copy -/

namespace WorkspaceCopy

/-- A copy is in place when its source, if the bundle has one, is a directory on disk under its
target. -/
def Placed (copy : WorkspaceCopy) (fs : FileSystem) : Option FsNode → Prop
  | none => True
  | some (.dir entries) => (FsNode.dir entries).Placed fs copy.target
  | some _ => False

theorem run_dir (copy : WorkspaceCopy) (entries : List (String × FsNode)) (fs : FileSystem) :
    copy.run (some (.dir entries)) fs = Import.copyDirEntry copy.overwrite copy.target (.dir entries) fs :=
  rfl

theorem run_cases (copy : WorkspaceCopy) (source : Option FsNode) (fs : FileSystem) :
    (source = none ∧ copy.run source fs = (fs, true)) ∨
    (∃ entries, source = some (.dir entries) ∧
      copy.run source fs = Import.copyDirEntry copy.overwrite copy.target (.dir entries) fs) ∨
    ((copy.run source fs).1 = (mkdirRecursive fs copy.target).1 ∧ (copy.run source fs).2 = false) := by
  match source with
  | none => exact .inl ⟨rfl, rfl⟩
  | some (.dir entries) => exact .inr (.inl ⟨entries, rfl, rfl⟩)
  | some (.file _) | some .other =>
    right; right
    by_cases hmade : (mkdirRecursive fs copy.target).2 = true <;> simp [run, hmade]

theorem run_rel {R : FileSystem → FileSystem → Prop} {copy : WorkspaceCopy}
    (hR : StepRel copy.overwrite R) (source : Option FsNode) (fs : FileSystem) :
    R fs (copy.run source fs).1 := by
  rcases copy.run_cases source fs with ⟨-, h⟩ | ⟨entries, -, h⟩ | ⟨h, -⟩ <;> rw [h]
  · exact hR.refl fs
  · exact Import.copyDirEntry_rel hR _ _ fs
  · exact hR.mkdir fs _

theorem run_changes (copy : WorkspaceCopy) {source : Option FsNode}
    (hw : ∀ node, source = some node → node.wellNamed = true) (fs : FileSystem) :
    ChangesUnder [copy.target] fs (copy.run source fs).1 := by
  rcases copy.run_cases source fs with ⟨-, h⟩ | ⟨entries, rfl, h⟩ | ⟨h, -⟩ <;> rw [h]
  · exact .refl _ _
  · exact Import.copyDirEntry_changes _ _ _ fs (hw _ rfl)
  · exact mkdirRecursive_changes fs _

theorem run_placed (copy : WorkspaceCopy) (source : Option FsNode) (fs : FileSystem)
    (hok : (copy.run source fs).2 = true) : copy.Placed (copy.run source fs).1 source := by
  rcases copy.run_cases source fs with ⟨rfl, -⟩ | ⟨entries, rfl, h⟩ | ⟨-, h⟩
  · trivial
  · rw [h] at hok ⊢
    exact Import.copyDirEntry_placed _ _ _ fs hok
  · rw [h] at hok; cases hok

theorem Placed.mono {copy : WorkspaceCopy} {fs fs' : FileSystem} (h : Grows fs fs') :
    ∀ {source : Option FsNode}, copy.Placed fs source → copy.Placed fs' source
  | none, _ => trivial
  | some (.dir _), hp => FsNode.Placed.mono h hp
  | some (.file _), hp => hp
  | some .other, hp => hp

theorem run_of_placed (copy : WorkspaceCopy) (hov : copy.overwrite = false) {source : Option FsNode}
    {fs : FileSystem} (hp : copy.Placed fs source) : copy.run source fs = (fs, true) := by
  match source, hp with
  | none, _ => rfl
  | some (.dir entries), hp => rw [run_dir, hov]; exact Import.copyDirEntry_of_placed _ _ fs hp

end WorkspaceCopy

/-! ## The whole step -/

section PlaceBundle

variable (bundleAt : String → Option FsNode)

theorem placeBundle_rel {R : FileSystem → FileSystem → Prop} (refl : ∀ fs, R fs fs)
    (trans : ∀ {fs₁ fs₂ fs₃}, R fs₁ fs₂ → R fs₂ fs₃ → R fs₁ fs₃) :
    ∀ (copies : List WorkspaceCopy), (∀ c ∈ copies, ∀ fs, R fs (c.run (bundleAt c.source) fs).1) →
      ∀ fs, R fs (placeBundle bundleAt copies fs).1
  | [], _, fs => refl fs
  | c :: copies, h, fs => by
    simp only [placeBundle]
    split
    · exact trans (h c (List.mem_cons_self _ _) fs) (placeBundle_rel refl trans copies
        (fun c' hc' => h c' (List.mem_cons_of_mem _ hc')) _)
    · exact h c (List.mem_cons_self _ _) fs

theorem placeBundle_grows (copies : List WorkspaceCopy) (fs : FileSystem) :
    Grows fs (placeBundle bundleAt copies fs).1 :=
  placeBundle_rel bundleAt (StepRel.grows false).refl (StepRel.grows false).trans copies
    (fun c _ fs => c.run_rel (StepRel.grows c.overwrite) _ fs) fs

theorem placeBundle_placed :
    ∀ (copies : List WorkspaceCopy) (fs : FileSystem), (placeBundle bundleAt copies fs).2 = true →
      ∀ c ∈ copies, c.Placed (placeBundle bundleAt copies fs).1 (bundleAt c.source)
  | [], _, _, _, hc => by cases hc
  | c :: copies, fs, hok, c', hc' => by
    by_cases h₁ : (c.run (bundleAt c.source) fs).2 = true
    · simp only [placeBundle, h₁, if_true] at hok ⊢
      rcases List.mem_cons.mp hc' with rfl | hc'
      · exact (c'.run_placed _ fs h₁).mono (placeBundle_grows bundleAt copies _)
      · exact placeBundle_placed copies _ hok c' hc'
    · simp [placeBundle, h₁] at hok

theorem placeBundle_of_placed :
    ∀ (copies : List WorkspaceCopy) (fs : FileSystem),
      (∀ c ∈ copies, c.overwrite = false ∧ c.Placed fs (bundleAt c.source)) →
        placeBundle bundleAt copies fs = (fs, true)
  | [], _, _ => rfl
  | c :: copies, fs, h => by
    obtain ⟨hov, hp⟩ := h c (List.mem_cons_self _ _)
    simp only [placeBundle, c.run_of_placed hov hp, if_true]
    exact placeBundle_of_placed copies fs fun c' hc' => h c' (List.mem_cons_of_mem _ hc')

end PlaceBundle

theorem placementCopies_overwrite {env : ImportEnv} {configDir homedir : String}
    {workspaceOpt : Option String} {overwrite : Bool} {agents : List MigrateAgentManifest}
    {hasManagedSkills hasPersonalSkills : Bool} {c : WorkspaceCopy}
    (hc : c ∈ placementCopies env configDir homedir workspaceOpt overwrite agents hasManagedSkills
      hasPersonalSkills) : c.overwrite = overwrite := by
  simp only [placementCopies, placeWorkspaces, List.mem_append, List.mem_map] at hc
  rcases hc with (⟨_, _, rfl⟩ | hc) | hc
  · rfl
  all_goals split at hc <;> simp_all [placeManagedSkills, placePersonalSkills]

theorem placementCopies_false (env : ImportEnv) (configDir homedir : String)
    (workspaceOpt : Option String) (overwrite : Bool) (agents : List MigrateAgentManifest)
    (hasManagedSkills hasPersonalSkills : Bool) :
    placementCopies env configDir homedir workspaceOpt false agents hasManagedSkills hasPersonalSkills =
      (placementCopies env configDir homedir workspaceOpt overwrite agents hasManagedSkills
        hasPersonalSkills).map fun c => ⟨c.source, c.target, false⟩ := by
  simp only [placementCopies, placeWorkspaces, List.map_append, List.map_map]
  split <;> split <;> rfl

/-! ## The theorems -/

/-- **An import without `--overwrite` clobbers nothing.** Whatever the bundle holds, and even
when the import stops on an error, every file and directory that was on disk is still there,
unchanged. -/
theorem placeBundle_keeps (env : ImportEnv) (configDir homedir : String)
    (workspaceOpt : Option String) (agents : List MigrateAgentManifest)
    (hasManagedSkills hasPersonalSkills : Bool) (bundleAt : String → Option FsNode)
    (fs : FileSystem) :
    Keeps fs (placeBundle bundleAt (placementCopies env configDir homedir workspaceOpt false agents
      hasManagedSkills hasPersonalSkills) fs).1 :=
  placeBundle_rel bundleAt StepRel.keeps.refl StepRel.keeps.trans _
    (fun c hc fs => c.run_rel (placementCopies_overwrite hc ▸ StepRel.keeps) _ fs) fs

/-- A bundle that holds one skill wherever it is asked. -/
def skillBundle : String → Option FsNode := fun _ => some (.dir [("SKILL.md", .file "x")])

def sampleImportEnv : ImportEnv := ⟨"/tmp", "x", "/s", "/s/workspace", id⟩

def emptyDisk : FileSystem := fun _ => none

/-- The default agent, with its workspace where the export puts it. -/
def mainAgent : MigrateAgentManifest := ⟨"main", none, none, true, "agents/main/workspace"⟩

/-- **Each file of a copy lands at its place.** After a copy that succeeds, the place of each
file of the source tree holds that file, unless `overwrite` is off and something was already
there, which then stays as it was. -/
theorem run_files (copy : WorkspaceCopy) {node : FsNode} {fs : FileSystem}
    (hw : node.wellNamed = true) (hok : (copy.run (some node) fs).2 = true) :
    ∀ f ∈ node.filesAt copy.target, (copy.run (some node) fs).1 (normalize f.1) =
      if !copy.overwrite && (fs (normalize f.1)).isSome then fs (normalize f.1)
      else some (.file f.2) := by
  rcases copy.run_cases (some node) fs with ⟨h, -⟩ | ⟨entries, h, hrun⟩ | ⟨-, h⟩
  · cases h
  · cases h
    rw [hrun] at hok ⊢
    exact Import.copyDirEntry_files _ _ _ fs hw hok
  · rw [h] at hok; cases hok

def workspaceTree : FsNode := .dir [("AGENTS.md", .file "new"), ("notes.md", .file "n")]

/-- A disk where the workspace `/w` already has an `AGENTS.md`. -/
def workspaceDisk : FileSystem :=
  Function.update (Function.update emptyDisk "/w" (some .dir)) "/w/AGENTS.md" (some (.file "old"))

theorem run_files_kept :
    workspaceTree.wellNamed = true ∧
    ((⟨"/tmp/x/ws", "/w", false⟩ : WorkspaceCopy).run (some workspaceTree) workspaceDisk).2 = true ∧
    ∀ f ∈ workspaceTree.filesAt "/w",
      ((⟨"/tmp/x/ws", "/w", false⟩ : WorkspaceCopy).run (some workspaceTree) workspaceDisk).1
          (normalize f.1) =
        if !false && (workspaceDisk (normalize f.1)).isSome then workspaceDisk (normalize f.1)
        else some (.file f.2) :=
  ⟨by decide, by decide,
    @run_files ⟨"/tmp/x/ws", "/w", false⟩ workspaceTree workspaceDisk (by decide) (by decide)⟩

/-- **Importing twice changes nothing.** After an import that succeeds, with or without
`--overwrite`, importing the same bundle again without it succeeds and leaves the disk as it
is. -/
theorem placeBundle_idempotent (env : ImportEnv) (configDir homedir : String)
    (workspaceOpt : Option String) (overwrite : Bool) (agents : List MigrateAgentManifest)
    (hasManagedSkills hasPersonalSkills : Bool) (bundleAt : String → Option FsNode)
    (fs : FileSystem)
    (hok : (placeBundle bundleAt (placementCopies env configDir homedir workspaceOpt overwrite agents
      hasManagedSkills hasPersonalSkills) fs).2 = true) :
    placeBundle bundleAt (placementCopies env configDir homedir workspaceOpt false agents
        hasManagedSkills hasPersonalSkills)
      (placeBundle bundleAt (placementCopies env configDir homedir workspaceOpt overwrite agents
        hasManagedSkills hasPersonalSkills) fs).1 =
    ((placeBundle bundleAt (placementCopies env configDir homedir workspaceOpt overwrite agents
        hasManagedSkills hasPersonalSkills) fs).1, true) := by
  rw [placementCopies_false _ _ _ _ overwrite]
  refine placeBundle_of_placed bundleAt _ _ fun c hc => ?_
  obtain ⟨c₀, hc₀, rfl⟩ := List.mem_map.mp hc
  exact ⟨rfl, placeBundle_placed bundleAt _ fs hok c₀ hc₀⟩

theorem placeBundle_idempotent_skills :
    (placeBundle skillBundle (placementCopies sampleImportEnv "/c" "/h" none true [mainAgent] true false)
        emptyDisk).2 = true ∧
    placeBundle skillBundle (placementCopies sampleImportEnv "/c" "/h" none false [mainAgent] true false)
        (placeBundle skillBundle (placementCopies sampleImportEnv "/c" "/h" none true [mainAgent] true false)
          emptyDisk).1 =
      ((placeBundle skillBundle (placementCopies sampleImportEnv "/c" "/h" none true [mainAgent] true false)
          emptyDisk).1, true) := by
  have hok : (placeBundle skillBundle
      (placementCopies sampleImportEnv "/c" "/h" none true [mainAgent] true false) emptyDisk).2 = true := by
    decide
  exact ⟨hok, placeBundle_idempotent _ _ _ _ _ _ _ _ _ _ hok⟩

end QverisBot.Migrate
