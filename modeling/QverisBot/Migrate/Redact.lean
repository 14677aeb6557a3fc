import QverisBot.Js
import QverisBot.Node.Path

/-! # Redacting the staged export

`src/commands/migrate/redact-files.ts` and the staging steps of `migrateExport`: a directory is
copied into the staging directory, then walked, and each file `isTextFile` accepts is passed
through `forceRedactText`. A directory is the list of its entries in `readdir` order; a regular
file holds the text `readFile(.., "utf-8")` returns. `redactSensitiveText` with the default
patterns in `"tools"` mode is a parameter, `redact`.
-/

namespace QverisBot.Migrate

open QverisBot.Node QverisBot.Js

/-- What `readdir(.., { withFileTypes: true })` reports for an entry. -/
inductive FsNode
  | file (content : String)
  | dir (entries : List (String × FsNode))
  /-- Neither `isDirectory()` nor `isFile()`: a symlink, socket, fifo or device. -/
  | other
  deriving Repr

structure RedactStats where
  filesScanned : Nat
  filesChanged : Nat
  replacements : Nat
  deriving DecidableEq, Repr

def RedactStats.zero : RedactStats := ⟨0, 0, 0⟩

/-! ## One file -/

def textExtensions : List String :=
  [".md", ".txt", ".json", ".yaml", ".yml", ".toml", ".env", ".sh", ".ts", ".js", ".mjs", ".cjs"]

section
variable (cm : CaseMapping)

/-- `isTextFile`: a whitelisted extension, or no extension and a base name that is all upper
case or starts with a dot. -/
def isTextFile (filePath : String) : Bool :=
  let ext := cm.toLowerCase (extname filePath)
  if textExtensions.contains ext then true else
  let base := basename filePath
  ext == "" && (base == cm.toUpperCase base || base.data.head? == some '.')

example : isTextFile asciiCaseMapping "/s/agents/main/workspace/AGENTS.md" ∧
    isTextFile asciiCaseMapping "/s/x/NOTES.MD" ∧ isTextFile asciiCaseMapping "/s/x/LICENSE" ∧
    isTextFile asciiCaseMapping "/s/x/.env" ∧ !isTextFile asciiCaseMapping "/s/x/.env.local" ∧
    !isTextFile asciiCaseMapping "/s/x/run.py" ∧ !isTextFile asciiCaseMapping "/s/x/config.ini" ∧
    !isTextFile asciiCaseMapping "/s/x/Makefile" := by
  decide

structure RedactedText where
  text : String
  replacements : Nat

/-- `forceRedactText`: the empty text is returned as it is; any change counts as one
replacement. -/
def forceRedactText (redact : String → String) (text : String) : RedactedText :=
  if text = "" then ⟨text, 0⟩ else
  let redacted := redact text
  ⟨redacted, if redacted ≠ text then 1 else 0⟩

structure RedactResult where
  changed : Bool
  replacements : Nat

/-- `redactFileInPlace` on a regular file holding `content`: the result, and what the file holds
afterwards. -/
def redactFileInPlace (redact : String → String) (filePath content : String) :
    RedactResult × String :=
  if !isTextFile cm filePath then (⟨false, 0⟩, content) else
  let r := forceRedactText redact content
  if r.text = content then (⟨false, 0⟩, content) else (⟨true, r.replacements⟩, r.text)

/-- The counters after one scanned file. -/
def RedactStats.record (stats : RedactStats) (result : RedactResult) : RedactStats :=
  if result.changed then
    ⟨stats.filesScanned + 1, stats.filesChanged + 1, stats.replacements + result.replacements⟩
  else { stats with filesScanned := stats.filesScanned + 1 }

/-! ## The walk -/

mutual
/-- `walkAndRedact(dir, stats)` on the node at `dir`. `readdir` fails on anything but a
directory, and the walk then returns. -/
def walkAndRedact (redact : String → String) (dir : String) :
    FsNode → RedactStats → FsNode × RedactStats
  | .dir entries, stats =>
    let walked := walkEntries redact dir entries stats
    (.dir walked.1, walked.2)
  | node, stats => (node, stats)

/-- The loop of `walkAndRedact` over the entries of `dir`. -/
def walkEntries (redact : String → String) (dir : String) :
    List (String × FsNode) → RedactStats → List (String × FsNode) × RedactStats
  | [], stats => ([], stats)
  | (name, node) :: rest, stats =>
    let fullPath := join [dir, name]
    let visited : FsNode × RedactStats := match node with
      | .dir _ => walkAndRedact redact fullPath node stats
      | .file content =>
        let result := redactFileInPlace cm redact fullPath content
        (.file result.2, stats.record result.1)
      | .other => (.other, stats)
    let walked := walkEntries redact dir rest visited.2
    ((name, visited.1) :: walked.1, walked.2)
end

def redactDirectoryInPlace (redact : String → String) (dir : String) (node : FsNode) :
    FsNode × RedactStats :=
  walkAndRedact cm redact dir node .zero

/-! ## Staging -/

/-- A `readdir` of something that is not a directory throws. -/
inductive FsError
  | notADirectory

mutual
/-- What `copyDirRecursive` makes of one entry: a directory is created and copied into, a
regular file is copied, anything else is skipped. -/
def copyEntry : FsNode → Option FsNode
  | .dir entries => some (.dir (copyDirRecursive entries))
  | .file content => some (.file content)
  | .other => none

/-- `copyDirRecursive` into an empty directory: the entries the copy holds. -/
def copyDirRecursive : List (String × FsNode) → List (String × FsNode)
  | [] => []
  | (name, node) :: rest =>
    match copyEntry node with
    | some copied => (name, copied) :: copyDirRecursive rest
    | none => copyDirRecursive rest
end

/-- `copyDirIfExists` from the node `stat` finds at the source (`none`: `stat` fails): the copied
directory, if there was one. -/
def copyDirIfExists : Option FsNode → Except FsError (Option FsNode)
  | none => .ok none
  | some (.dir entries) => .ok (some (.dir (copyDirRecursive entries)))
  | some _ => .error .notADirectory

/-- `copyFileIfExists`: the copied file, when the source is a regular file. -/
def copyFileIfExists : Option FsNode → Option FsNode
  | some (.file content) => some (.file content)
  | _ => none

/-- The shared body of `stageManagedSkills` and `stagePersonalSkills`: copy the skills
directory to `dest` and redact it there. -/
def stageSkills (redact : String → String) (dest : String) (skills : Option FsNode) :
    Except FsError (Option FsNode × RedactStats) := do
  match ← copyDirIfExists skills with
  | none => pure (none, .zero)
  | some copied =>
    let redacted := redactDirectoryInPlace cm redact dest copied
    pure (some redacted.1, redacted.2)

/-- `stageManagedSkills`, with `skills` the node at `CONFIG_DIR/skills`. -/
def stageManagedSkills (redact : String → String) (stagingDir : String) (skills : Option FsNode) :
    Except FsError (Option FsNode × RedactStats) :=
  stageSkills cm redact (join [stagingDir, "managed-skills"]) skills

/-- `stagePersonalSkills`, with `skills` the node at `~/.agents/skills`. -/
def stagePersonalSkills (redact : String → String) (stagingDir : String) (skills : Option FsNode) :
    Except FsError (Option FsNode × RedactStats) :=
  stageSkills cm redact (join [stagingDir, "personal-skills"]) skills

/-- The entry named `name` of a directory. -/
def FsNode.child? : FsNode → String → Option FsNode
  | .dir entries, name => (entries.find? (·.1 == name)).map (·.2)
  | _, _ => none

def workspaceSubdirs : List String := ["memory", "skills", ".agents"]

/-- The workspace's copy before redaction: the core files, the subdirectories, and the
`.openclaw` directory that `copyFileIfExists` creates for the state marker whether or not the
marker exists. -/
def stagedWorkspace (coreFiles : List String) (workspace : FsNode) : Except FsError FsNode := do
  let core := coreFiles.filterMap fun filename =>
    (copyFileIfExists (workspace.child? filename)).map (filename, ·)
  let subdirs ← workspaceSubdirs.filterMapM fun subdir =>
    return (← copyDirIfExists (workspace.child? subdir)).map (subdir, ·)
  let marker := (copyFileIfExists ((workspace.child? ".openclaw").bind
    (·.child? "workspace-state.json"))).map ("workspace-state.json", ·)
  pure (.dir (core ++ subdirs ++ [(".openclaw", .dir marker.toList)]))

/-- `stageAgentWorkspace`, with `workspace` the node at `workspaceDir` and `coreFiles` the names
in `WORKSPACE_CORE_FILES`. A missing workspace reads as an empty directory: every copy from it
fails softly. -/
def stageAgentWorkspace (redact : String → String) (coreFiles : List String)
    (agentId stagingDir : String) (workspace : FsNode) : Except FsError (FsNode × RedactStats) := do
  let staged ← stagedWorkspace coreFiles workspace
  pure (redactDirectoryInPlace cm redact (join [stagingDir, "agents", agentId, "workspace"]) staged)

/-! ## What the walk leaves -/

/-- The text a file holds once the walk has passed: redacted exactly when `isTextFile` accepts
its path. -/
def redactedContent (redact : String → String) (filePath content : String) : String :=
  if isTextFile cm filePath then (forceRedactText redact content).text else content

mutual
/-- The tree with the content `f path content` in each regular file, paths taken under `dir`. -/
def FsNode.mapFiles (f : String → String → String) (dir : String) : FsNode → FsNode
  | .dir entries => .dir (FsNode.mapEntries f dir entries)
  | node => node

def FsNode.mapEntries (f : String → String → String) (dir : String) :
    List (String × FsNode) → List (String × FsNode)
  | [] => []
  | (name, node) :: rest =>
    let mapped := match node with
      | .dir _ => node.mapFiles f (join [dir, name])
      | .file content => .file (f (join [dir, name]) content)
      | .other => .other
    (name, mapped) :: FsNode.mapEntries f dir rest
end

theorem redactFileInPlace_content (redact : String → String) (filePath content : String) :
    (redactFileInPlace cm redact filePath content).2 = redactedContent cm redact filePath content := by
  unfold redactFileInPlace redactedContent
  cases isTextFile cm filePath
  · rfl
  · by_cases h : (forceRedactText redact content).text = content <;> simp [h]

mutual
theorem walkAndRedact_tree (redact : String → String) (dir : String) :
    ∀ (node : FsNode) (stats : RedactStats),
      (walkAndRedact cm redact dir node stats).1 = node.mapFiles (redactedContent cm redact) dir
  | .dir entries, stats => by
    simp only [walkAndRedact, FsNode.mapFiles, walkEntries_tree redact dir entries stats]
  | .file _, _ => rfl
  | .other, _ => rfl

theorem walkEntries_tree (redact : String → String) (dir : String) :
    ∀ (entries : List (String × FsNode)) (stats : RedactStats),
      (walkEntries cm redact dir entries stats).1 =
        FsNode.mapEntries (redactedContent cm redact) dir entries
  | [], _ => rfl
  | (name, .dir entries) :: rest, stats => by
    simp only [walkEntries, FsNode.mapEntries, walkAndRedact_tree redact _ (.dir entries) stats,
      walkEntries_tree redact dir rest]
  | (name, .file content) :: rest, stats => by
    simp only [walkEntries, FsNode.mapEntries, redactFileInPlace_content,
      walkEntries_tree redact dir rest]
  | (name, .other) :: rest, stats => by
    simp only [walkEntries, FsNode.mapEntries, walkEntries_tree redact dir rest]
end

/-! ## The counters -/

mutual
/-- The regular files the walk reaches from an entry. -/
def FsNode.fileCount : FsNode → Nat
  | .dir entries => FsNode.entriesFileCount entries
  | .file _ => 1
  | .other => 0

def FsNode.entriesFileCount : List (String × FsNode) → Nat
  | [] => 0
  | (_, node) :: rest => node.fileCount + FsNode.entriesFileCount rest
end

/-- What the counters can say: one replacement per changed file, and no more changed files than
scanned ones. -/
def RedactStats.Consistent (stats : RedactStats) : Prop :=
  stats.replacements = stats.filesChanged ∧ stats.filesChanged ≤ stats.filesScanned

theorem redactFileInPlace_replacements (redact : String → String) (filePath content : String) :
    (redactFileInPlace cm redact filePath content).1.changed = true →
      (redactFileInPlace cm redact filePath content).1.replacements = 1 := by
  unfold redactFileInPlace forceRedactText
  split
  · simp
  · by_cases he : content = "" <;> by_cases hr : redact content = content <;> simp [he, hr]

theorem record_consistent {stats : RedactStats} {result : RedactResult}
    (hres : result.changed = true → result.replacements = 1) (h : stats.Consistent) :
    (stats.record result).Consistent ∧
      (stats.record result).filesScanned = stats.filesScanned + 1 := by
  obtain ⟨hr, hc⟩ := h
  unfold RedactStats.record RedactStats.Consistent
  split
  · next hch => exact ⟨⟨by rw [hres hch, hr], Nat.succ_le_succ hc⟩, rfl⟩
  · exact ⟨⟨hr, Nat.le_succ_of_le hc⟩, rfl⟩

mutual
theorem walkAndRedact_stats (redact : String → String) (dir : String) :
    ∀ (node : FsNode) (stats : RedactStats), stats.Consistent →
      (walkAndRedact cm redact dir node stats).2.Consistent ∧
        (walkAndRedact cm redact dir node stats).2.filesScanned = stats.filesScanned +
          match node with
          | .dir entries => FsNode.entriesFileCount entries
          | _ => 0
  | .dir entries, stats, h => walkEntries_stats redact dir entries stats h
  | .file _, _, h => ⟨h, rfl⟩
  | .other, _, h => ⟨h, rfl⟩

theorem walkEntries_stats (redact : String → String) (dir : String) :
    ∀ (entries : List (String × FsNode)) (stats : RedactStats), stats.Consistent →
      (walkEntries cm redact dir entries stats).2.Consistent ∧
        (walkEntries cm redact dir entries stats).2.filesScanned =
          stats.filesScanned + FsNode.entriesFileCount entries
  | [], _, h => ⟨h, rfl⟩
  | (name, .dir entries) :: rest, stats, h => by
    obtain ⟨h1, n1⟩ := walkAndRedact_stats redact (join [dir, name]) (.dir entries) stats h
    obtain ⟨h2, n2⟩ := walkEntries_stats redact dir rest _ h1
    simp only [walkEntries, FsNode.entriesFileCount, FsNode.fileCount] at n1 ⊢
    exact ⟨h2, by omega⟩
  | (name, .file content) :: rest, stats, h => by
    obtain ⟨h1, n1⟩ :=
      record_consistent (redactFileInPlace_replacements cm redact (join [dir, name]) content) h
    obtain ⟨h2, n2⟩ := walkEntries_stats redact dir rest _ h1
    simp only [walkEntries, FsNode.entriesFileCount, FsNode.fileCount]
    exact ⟨h2, by omega⟩
  | (_, .other) :: rest, stats, h => by
    obtain ⟨h2, n2⟩ := walkEntries_stats redact dir rest stats h
    exact ⟨h2, by simpa [FsNode.entriesFileCount, FsNode.fileCount] using n2⟩
end

theorem redactDirectoryInPlace_dir (redact : String → String) (dir : String)
    (entries : List (String × FsNode)) :
    (redactDirectoryInPlace cm redact dir (.dir entries)).1 =
        (FsNode.dir entries).mapFiles (redactedContent cm redact) dir ∧
      (redactDirectoryInPlace cm redact dir (.dir entries)).2.filesScanned =
        (FsNode.dir entries).fileCount ∧
      (redactDirectoryInPlace cm redact dir (.dir entries)).2.Consistent := by
  obtain ⟨hc, hn⟩ := walkAndRedact_stats cm redact dir (.dir entries) .zero ⟨rfl, le_refl 0⟩
  exact ⟨walkAndRedact_tree cm redact dir _ _, by simpa [RedactStats.zero] using hn, hc⟩

theorem redactDirectoryInPlace_consistent (redact : String → String) (dir : String) (node : FsNode) :
    (redactDirectoryInPlace cm redact dir node).2.Consistent :=
  (walkAndRedact_stats cm redact dir node .zero ⟨rfl, le_refl 0⟩).1

/-! ## Staging leaves -/

theorem stageSkills_staged {redact : String → String} {dest : String} {skills : Option FsNode}
    {staged : Option FsNode × RedactStats} (h : stageSkills cm redact dest skills = .ok staged) :
    (skills = none ∧ staged = (none, .zero)) ∨
      ∃ entries, skills = some (.dir entries) ∧
        staged.1 = some (redactDirectoryInPlace cm redact dest (.dir (copyDirRecursive entries))).1 ∧
        staged.2 = (redactDirectoryInPlace cm redact dest (.dir (copyDirRecursive entries))).2 := by
  match skills, h with
  | none, h => cases h; exact .inl ⟨rfl, rfl⟩
  | some (.file _), h | some .other, h => cases h
  | some (.dir entries), h => cases h; exact .inr ⟨entries, rfl, rfl, rfl⟩

theorem stagedWorkspace_dir {coreFiles : List String} {workspace copied : FsNode}
    (h : stagedWorkspace coreFiles workspace = .ok copied) : ∃ entries, copied = .dir entries := by
  simp only [stagedWorkspace, bind, Except.bind] at h
  split at h
  · cases h
  · cases h
    exact ⟨_, rfl⟩

theorem stageAgentWorkspace_staged {redact : String → String} {coreFiles : List String}
    {agentId stagingDir : String} {workspace : FsNode} {staged : FsNode × RedactStats}
    (h : stageAgentWorkspace cm redact coreFiles agentId stagingDir workspace = .ok staged) :
    ∃ entries, stagedWorkspace coreFiles workspace = .ok (.dir entries) ∧
      staged = redactDirectoryInPlace cm redact (join [stagingDir, "agents", agentId, "workspace"])
        (.dir entries) := by
  cases hw : stagedWorkspace coreFiles workspace with
  | error e => simp [stageAgentWorkspace, hw, bind, Except.bind] at h
  | ok copied =>
    simp only [stageAgentWorkspace, hw, bind, Except.bind, pure, Except.pure, Except.ok.injEq] at h
    obtain ⟨entries, rfl⟩ := stagedWorkspace_dir hw
    exact ⟨entries, rfl, h.symm⟩

theorem isTextFile_ascii {filePath : String} (hext : ∀ c ∈ (extname filePath).data, c.toNat < 128)
    (hbase : ∀ c ∈ (basename filePath).data, c.toNat < 128) :
    isTextFile cm filePath = isTextFile asciiCaseMapping filePath := by
  simp only [isTextFile, cm.lower_ascii _ hext, cm.upper_ascii _ hbase]
  rfl

/-! ## The theorems -/

/-- **Staging redacts what `isTextFile` accepts.** A staged workspace or skills directory is the
copy in which each regular file holds `forceRedactText` of its text exactly when `isTextFile`
accepts its staged path, and its text unchanged otherwise; every regular file of the copy is
scanned once, and `replacements` counts changed files. -/
theorem staging_redacts_text_files (redact : String → String) :
    (∀ coreFiles agentId stagingDir workspace staged stats,
      stageAgentWorkspace cm redact coreFiles agentId stagingDir workspace = .ok (staged, stats) →
      ∃ copied, stagedWorkspace coreFiles workspace = .ok copied ∧
        staged = copied.mapFiles (redactedContent cm redact)
          (join [stagingDir, "agents", agentId, "workspace"]) ∧
        stats.filesScanned = copied.fileCount ∧ stats.Consistent) ∧
    (∀ dest skills staged stats, stageSkills cm redact dest skills = .ok (some staged, stats) →
      ∃ entries, skills = some (.dir entries) ∧
        staged = (FsNode.dir (copyDirRecursive entries)).mapFiles (redactedContent cm redact) dest ∧
        stats.filesScanned = (FsNode.dir (copyDirRecursive entries)).fileCount ∧
        stats.Consistent) := by
  refine ⟨fun _ _ _ _ _ _ h => ?_, fun _ _ _ _ h => ?_⟩
  · obtain ⟨entries, hw, hs⟩ := stageAgentWorkspace_staged cm h
    obtain ⟨rfl, rfl⟩ := Prod.ext_iff.mp hs
    exact ⟨_, hw, redactDirectoryInPlace_dir cm redact _ entries⟩
  · rcases stageSkills_staged cm h with ⟨-, h'⟩ | ⟨entries, hskills, h1, rfl⟩
    · cases h'
    · cases h1
      exact ⟨entries, hskills, redactDirectoryInPlace_dir cm redact _ (copyDirRecursive entries)⟩

theorem staging_redacts_text_files_agents :
    stageAgentWorkspace asciiCaseMapping (fun _ => "[redacted]") ["AGENTS.md"] "main" "/s"
        (.dir [("AGENTS.md", .file "key sk-1")]) =
      .ok (.dir [("AGENTS.md", .file "[redacted]"), (".openclaw", .dir [])], ⟨1, 1, 1⟩) ∧
    ∃ copied, stagedWorkspace ["AGENTS.md"] (.dir [("AGENTS.md", .file "key sk-1")]) = .ok copied ∧
      FsNode.dir [("AGENTS.md", .file "[redacted]"), (".openclaw", .dir [])] =
        copied.mapFiles (redactedContent asciiCaseMapping fun _ => "[redacted]")
          (join ["/s", "agents", "main", "workspace"]) ∧
      (⟨1, 1, 1⟩ : RedactStats).filesScanned = copied.fileCount ∧
      (⟨1, 1, 1⟩ : RedactStats).Consistent :=
  ⟨rfl, (staging_redacts_text_files asciiCaseMapping _).1 _ _ _ _ _ _ rfl⟩

/-- **A secret outside the whitelist is exported as it is.** Whatever the case mapping and
whatever `redactSensitiveText` does, a managed skill's `.env.local` is staged unchanged (scanned,
not changed), while `forceRedactText` of its text is the redactor's output. -/
theorem stageManagedSkills_keeps_env_local (redact : String → String) :
    stageManagedSkills cm redact "/tmp/qverisbot-export-abc123"
        (some (.dir [("deploy", .dir [(".env.local", .file "OPENAI_API_KEY=sk-abcdef1234567890abcdef12")])])) =
      .ok (some (.dir [("deploy", .dir [(".env.local", .file "OPENAI_API_KEY=sk-abcdef1234567890abcdef12")])]),
        ⟨1, 0, 0⟩) ∧
    (forceRedactText redact "OPENAI_API_KEY=sk-abcdef1234567890abcdef12").text =
      redact "OPENAI_API_KEY=sk-abcdef1234567890abcdef12" := by
  have htext : isTextFile cm (join [join [join ["/tmp/qverisbot-export-abc123", "managed-skills"],
      "deploy"], ".env.local"]) = false := by
    rw [isTextFile_ascii cm (by decide) (by decide)]
    decide
  have hwalk : walkAndRedact cm redact (join ["/tmp/qverisbot-export-abc123", "managed-skills"])
      (.dir [("deploy", .dir [(".env.local", .file "OPENAI_API_KEY=sk-abcdef1234567890abcdef12")])])
      .zero = (.dir [("deploy", .dir [(".env.local", .file "OPENAI_API_KEY=sk-abcdef1234567890abcdef12")])],
        ⟨1, 0, 0⟩) := by
    simp only [walkAndRedact, walkEntries, redactFileInPlace, htext]
    rfl
  refine ⟨?_, rfl⟩
  simp only [stageManagedSkills, stageSkills, copyDirIfExists, redactDirectoryInPlace,
    copyDirRecursive, copyEntry, bind, Except.bind, hwalk]
  rfl

end

end QverisBot.Migrate
