import QverisBot.Migrate.Place

/-! # When the placement finishes

The theorems of `Migrate.Place` hold whether or not the import gets to its end. This module
says when it does: with sources that are directories `readdir` can list, targets none of which
lies inside another, and each target fresh (no file where `mkdir` must make a directory, and
nothing inside it yet), every copy of the placement loop succeeds. The copy's steps are taken in
turn: `mkdir` succeeds where no file is on the way, a write succeeds inside a directory that is
there, and what one entry writes stays inside it, apart from its siblings.
-/

namespace QverisBot.Migrate

open QverisBot.Node QverisBot.Hooks

/-! ## The paths of an entry -/

theorem ancestorPaths_join_entryName (dest : String) {name : String} (h : isEntryName name = true) :
    ∃ last, ancestorPaths (join [dest, name]) = ancestorPaths dest ++ [last] ∧
      location last = location (join [dest, name]) := by
  have hloc := location_join_entryName dest h
  have habs : isAbsolute (join [dest, name]) = isAbsolute dest := congrArg Prod.fst hloc
  refine ⟨_, ?_, (location_ancestor (join [dest, name]) (i := (location dest).2.length) (by simp [hloc])).trans
    (Prod.ext rfl (List.take_of_length_le (by simp [hloc])))⟩
  rw [ancestorPaths_eq, ancestorPaths_eq, hloc, habs, List.length_append, List.length_singleton,
    List.range_succ, List.map_append, List.map_singleton]
  refine congrArg (· ++ _) (List.map_congr_left fun i hi => ?_)
  rw [List.take_append_of_le_length (List.mem_range.mp hi)]

theorem ancestorPaths_normalize (p : String) : ancestorPaths (normalize p) = ancestorPaths p := by
  simp only [ancestorPaths, location_normalize]

theorem parentPath?_join_entryName (dest : String) {name : String} (h : isEntryName name = true) :
    parentPath? (normalize (join [dest, name])) = (ancestorPaths dest).getLast? := by
  obtain ⟨last, hpaths, -⟩ := ancestorPaths_join_entryName dest h
  rw [parentPath?, ancestorPaths_normalize, hpaths, List.dropLast_concat]

/-! ## `mkdir` and the copy -/

theorem mkdirAlong_ok :
    ∀ (qs : List String) (fs : FileSystem), (∀ q ∈ qs, ∀ c, fs q ≠ some (.file c)) →
      (mkdirAlong fs qs).2 = true
  | [], _, _ => rfl
  | q :: qs, fs, h => by
    unfold mkdirAlong
    split
    · next c hq => exact absurd hq (h q (List.mem_cons_self _ _) c)
    · exact mkdirAlong_ok qs fs fun q' hq' => h q' (List.mem_cons_of_mem _ hq')
    · refine mkdirAlong_ok qs _ fun q' hq' c => ?_
      by_cases hqq : q' = q
      · subst hqq; simp
      · rw [Function.update_noteq hqq]; exact h q' (List.mem_cons_of_mem _ hq') c

theorem mkdirRecursive_ok {fs : FileSystem} {p : String}
    (hno : ∀ q ∈ ancestorPaths p, ∀ c, fs q ≠ some (.file c)) :
    (mkdirRecursive fs p).2 = true ∧ (∀ q ∈ ancestorPaths p, (mkdirRecursive fs p).1 q = some .dir) ∧
      ∀ k, k ∉ ancestorPaths p → (mkdirRecursive fs p).1 k = fs k :=
  have hok := mkdirAlong_ok _ fs hno
  ⟨hok, mkdirAlong_dirs_of_ok _ fs hok, fun _ hk => mkdirAlong_frame _ fs hk⟩

namespace Import

mutual
theorem copyDirEntry_ok (ov : Bool) :
    ∀ (dest name : String) (node : FsNode) (fs : FileSystem), isEntryName name = true →
      node.wellNamed = true → (∀ q ∈ ancestorPaths dest, fs q = some .dir) →
      (∀ k, isWithin (join [dest, name]) k → fs k = none) →
      (copyDirEntry ov (join [dest, name]) node fs).2 = true
  | dest, name, .dir entries, fs, hn, hw, hdirs, hfree => by
    obtain ⟨last, hpaths, hlast⟩ := ancestorPaths_join_entryName dest hn
    have hno : ∀ q ∈ ancestorPaths (join [dest, name]), ∀ c, fs q ≠ some (.file c) := by
      rw [hpaths]
      intro q hq c
      rcases List.mem_append.mp hq with hq | hq
      · rw [hdirs q hq]; simp
      · rw [List.mem_singleton.mp hq, hfree last ⟨congrArg Prod.fst hlast, hlast ▸ List.prefix_refl _⟩]
        simp
    obtain ⟨hmade, hmdirs, hframe⟩ := mkdirRecursive_ok hno
    simp only [copyDirEntry, hmade, if_true]
    refine copyDirRecursive_ok ov _ entries _ hw hmdirs fun e he k hk => ?_
    have hne := FsNode.isEntryName_of_mem hw he
    rw [hframe k fun hm => not_isWithin_of_isWithin_join hne hk (isWithin_of_mem_ancestorPaths hm)]
    exact hfree k (isWithin_trans (isWithin_join_entryName _ hne) hk)
  | dest, name, .file content, fs, hn, _, hdirs, hfree => by
    have hkey : fs (normalize (join [dest, name])) = none :=
      hfree _ (isWithin_normalize_iff.mpr (isWithin_refl _))
    have hcan : canWriteAt fs (normalize (join [dest, name])) = true := by
      unfold canWriteAt
      rw [parentPath?_join_entryName dest hn, hkey]
      cases hl : (ancestorPaths dest).getLast? with
      | none => rfl
      | some parent => simp [hdirs parent (List.mem_of_getLast?_eq_some hl)]
    simp [copyDirEntry, hkey, writeFile, hcan]
  | _, _, .other, _, _, _, _, _ => rfl

theorem copyDirRecursive_ok (ov : Bool) :
    ∀ (dest : String) (entries : List (String × FsNode)) (fs : FileSystem),
      FsNode.entriesWellNamed entries = true → (∀ q ∈ ancestorPaths dest, fs q = some .dir) →
      (∀ e ∈ entries, ∀ k, isWithin (join [dest, e.1]) k → fs k = none) →
      (copyDirRecursive ov dest entries fs).2 = true
  | _, [], _, _, _, _ => rfl
  | dest, (name, node) :: entries, fs, hw, hdirs, hfree => by
    obtain ⟨hn, hdistinct, hwn, hwe⟩ := FsNode.entriesWellNamed_cons.mp hw
    have h₁ := copyDirEntry_ok ov dest name node fs hn hwn hdirs (hfree (name, node) (List.mem_cons_self _ _))
    simp only [copyDirRecursive, h₁, if_true]
    refine copyDirRecursive_ok ov dest entries _ hwe
      (fun q hq => (copyDirEntry_rel (StepRel.grows ov) _ node fs).dir q (hdirs q hq)) fun e he k hk => ?_
    rw [(copyDirEntry_changes ov _ node fs hwn).eq_of_apart fun r hr => ?_]
    · exact hfree e (List.mem_cons_of_mem _ he) k hk
    · rw [List.mem_singleton.mp hr]
      exact apart_of_isWithin_sibling dest (FsNode.isEntryName_of_mem hwe he) hn (hdistinct e he) hk
end

end Import

/-! ## Fresh targets -/

/-- A target the copy can fill: no file stands where `mkdir` must make a directory, and nothing
is inside it yet. -/
structure Fresh (fs : FileSystem) (target : String) : Prop where
  noFileAbove : ∀ k, isWithin k target → ∀ content, fs k ≠ some (.file content)
  emptyInside : ∀ k, isWithin target k → ¬ isWithin k target → fs k = none

/-- Neither path lies inside the other. -/
def Apart (a b : String) : Prop := ¬ isWithin a b ∧ ¬ isWithin b a

instance (a b : String) : Decidable (Apart a b) := inferInstanceAs (Decidable (_ ∧ _))

theorem WorkspaceCopy.run_ok (copy : WorkspaceCopy) {entries : List (String × FsNode)}
    {fs : FileSystem} (hw : FsNode.entriesWellNamed entries = true) (hfresh : Fresh fs copy.target) :
    (copy.run (some (.dir entries)) fs).2 = true := by
  obtain ⟨hmade, hmdirs, hframe⟩ := mkdirRecursive_ok fun q hq =>
    hfresh.noFileAbove q (isWithin_of_mem_ancestorPaths hq)
  rw [run_dir]
  simp only [Import.copyDirEntry, hmade, if_true]
  refine Import.copyDirRecursive_ok _ _ entries _ hw hmdirs fun e he k hk => ?_
  have hne := FsNode.isEntryName_of_mem hw he
  have hout := not_isWithin_of_isWithin_join hne hk
  rw [hframe k fun hm => hout (isWithin_of_mem_ancestorPaths hm)]
  exact hfresh.emptyInside k (isWithin_trans (isWithin_join_entryName _ hne) hk) hout

theorem Fresh.of_changes {fs fs' : FileSystem} {r t : String} (h : Fresh fs t)
    (hch : ChangesUnder [r] fs fs') (hap : Apart r t) : Fresh fs' t where
  noFileAbove k hk c := by
    by_cases heq : fs' k = fs k
    · rw [heq]; exact h.noFileAbove k hk c
    · obtain ⟨r', hr', hw | ⟨-, -, hd⟩⟩ := hch k heq
      · rw [List.mem_singleton.mp hr'] at hw
        exact absurd (isWithin_trans hw hk) hap.1
      · rw [hd]; simp
  emptyInside k hk hout := by
    by_cases heq : fs' k = fs k
    · rw [heq]; exact h.emptyInside k hk hout
    · obtain ⟨r', hr', hw | ⟨ha, -, -⟩⟩ := hch k heq <;> rw [List.mem_singleton.mp hr'] at *
      · exact ((isWithin_or_isWithin hw hk).elim hap.1 hap.2).elim
      · exact absurd (isWithin_trans hk ha) hap.2

theorem placeBundle_ok (bundleAt : String → Option FsNode) :
    ∀ (copies : List WorkspaceCopy) (fs : FileSystem),
      (∀ c ∈ copies, ∀ node, bundleAt c.source = some node →
        ∃ entries, node = .dir entries ∧ FsNode.entriesWellNamed entries = true) →
      copies.Pairwise (fun a b => Apart a.target b.target) → (∀ c ∈ copies, Fresh fs c.target) →
      (placeBundle bundleAt copies fs).2 = true
  | [], _, _, _, _ => rfl
  | c :: copies, fs, hsrc, hap, hfresh => by
    have hw : ∀ node, bundleAt c.source = some node → node.wellNamed = true := fun node hb => by
      obtain ⟨entries, rfl, hwe⟩ := hsrc c (List.mem_cons_self _ _) node hb
      exact hwe
    have hrun : (c.run (bundleAt c.source) fs).2 = true := by
      cases hb : bundleAt c.source with
      | none => rfl
      | some node =>
        obtain ⟨entries, rfl, hwe⟩ := hsrc c (List.mem_cons_self _ _) node hb
        exact c.run_ok hwe (hfresh c (List.mem_cons_self _ _))
    simp only [placeBundle, hrun, if_true]
    obtain ⟨hhead, htail⟩ := List.pairwise_cons.mp hap
    exact placeBundle_ok bundleAt copies _ (fun c' hc' => hsrc c' (List.mem_cons_of_mem _ hc')) htail
      fun c' hc' => (hfresh c' (List.mem_cons_of_mem _ hc')).of_changes (c.run_changes hw fs) (hhead c' hc')

/-! ## The theorems -/

/-- **An import onto fresh targets finishes.** When every source the bundle holds is a directory
whose names `readdir` can list, no target lies inside another, and each target is fresh (no file
on the way to it, nothing inside it), the placement loop makes every copy, with or without
`--overwrite`. -/
theorem placeBundle_fresh (env : ImportEnv) (configDir homedir : String)
    (workspaceOpt : Option String) (overwrite : Bool) (agents : List MigrateAgentManifest)
    (hasManagedSkills hasPersonalSkills : Bool) (bundleAt : String → Option FsNode) (fs : FileSystem)
    (hsrc : ∀ c ∈ placementCopies env configDir homedir workspaceOpt overwrite agents hasManagedSkills
      hasPersonalSkills, ∀ node, bundleAt c.source = some node →
        ∃ entries, node = .dir entries ∧ FsNode.entriesWellNamed entries = true)
    (hapart : (placementCopies env configDir homedir workspaceOpt overwrite agents hasManagedSkills
      hasPersonalSkills).Pairwise fun a b => Apart a.target b.target)
    (hfresh : ∀ c ∈ placementCopies env configDir homedir workspaceOpt overwrite agents hasManagedSkills
      hasPersonalSkills, Fresh fs c.target) :
    (placeBundle bundleAt (placementCopies env configDir homedir workspaceOpt overwrite agents
      hasManagedSkills hasPersonalSkills) fs).2 = true :=
  placeBundle_ok bundleAt _ fs hsrc hapart hfresh

theorem placeBundle_fresh_empty :
    (∀ c ∈ placementCopies sampleImportEnv "/c" "/h" none false
        [⟨"main", none, none, true, "agents/main/workspace"⟩] true false, ∀ node,
      skillBundle c.source = some node → ∃ entries, node = .dir entries ∧
        FsNode.entriesWellNamed entries = true) ∧
    (placementCopies sampleImportEnv "/c" "/h" none false
        [⟨"main", none, none, true, "agents/main/workspace"⟩] true false).Pairwise
      (fun a b => Apart a.target b.target) ∧
    (∀ c ∈ placementCopies sampleImportEnv "/c" "/h" none false
        [⟨"main", none, none, true, "agents/main/workspace"⟩] true false, Fresh emptyDisk c.target) ∧
    (placeBundle skillBundle (placementCopies sampleImportEnv "/c" "/h" none false
        [⟨"main", none, none, true, "agents/main/workspace"⟩] true false) emptyDisk).2 = true := by
  have hsrc : ∀ c ∈ placementCopies sampleImportEnv "/c" "/h" none false
      [⟨"main", none, none, true, "agents/main/workspace"⟩] true false, ∀ node,
      skillBundle c.source = some node → ∃ entries, node = .dir entries ∧
        FsNode.entriesWellNamed entries = true :=
    fun _ _ _ h => ⟨_, (Option.some.inj h).symm, by decide⟩
  have hapart : (placementCopies sampleImportEnv "/c" "/h" none false
      [⟨"main", none, none, true, "agents/main/workspace"⟩] true false).Pairwise
      (fun a b => Apart a.target b.target) := by decide
  have hfresh : ∀ c ∈ placementCopies sampleImportEnv "/c" "/h" none false
      [⟨"main", none, none, true, "agents/main/workspace"⟩] true false, Fresh emptyDisk c.target :=
    fun _ _ => ⟨fun _ _ _ h => Option.noConfusion h, fun _ _ _ => rfl⟩
  exact ⟨hsrc, hapart, hfresh, placeBundle_fresh _ _ _ _ _ _ _ _ _ _ hsrc hapart hfresh⟩

end QverisBot.Migrate
