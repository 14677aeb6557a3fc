import QverisBot.Json.Stringify
import QverisBot.Migrate.Place
import QverisBot.Migrate.Sessions

/-! # The manifest the export writes and the import reads

`migrateExport` stages each agent's workspace and the skills, each copy redacted in place, and
writes `manifest.json` with `writeJsonFile`: `JSON.stringify(buildManifest(..), null, 2)` and a
new line. `buildManifest` and `mergeRedactStats` come from `src/commands/migrate/`. On the other
machine `readManifestFromExtracted` parses the file and hands it to `validateManifest`, and the
placement loop reads the agents and the two skills flags from it. The bundle id, the clock, the
platform and the home directory are parameters of the export, as the machine is of the import.
-/

namespace QverisBot.Migrate

open QverisBot.Json QverisBot.Node QverisBot.Js

/-! ## The agents -/

/-- The model an entry of `agents.list` names: a string, or an object with a `primary`. -/
inductive AgentModelConfig
  | text (model : String)
  | object (primary : Option String)
  deriving DecidableEq, Repr

/-- An entry of `cfg.agents.list`, with the fields the display lookups read. -/
structure AgentListEntry where
  id : Option String
  name : Option String
  model : Option AgentModelConfig
  deriving DecidableEq, Repr

/-- `s || undefined`. -/
def orUndefined (s : String) : Option String := if s = "" then none else some s

/-- The entry of `agents.list` whose id matches `agentId` ignoring case. -/
def findAgentEntry (cm : CaseMapping) (list : List AgentListEntry) (agentId : String) :
    Option AgentListEntry :=
  list.find? fun e => e.id.map cm.toLowerCase == some (cm.toLowerCase agentId)

def resolveAgentDisplayName (cm : CaseMapping) (list : List AgentListEntry) (agentId : String) :
    Option String :=
  ((findAgentEntry cm list agentId).bind (·.name)).bind fun name => orUndefined (trim name)

def resolveAgentDisplayModel (cm : CaseMapping) (list : List AgentListEntry) (agentId : String) :
    Option String :=
  match (findAgentEntry cm list agentId).bind (·.model) with
  | some (.text model) => if model = "" then none else orUndefined (trim model)
  | some (.object primary) => primary.bind fun p => orUndefined (trim p)
  | none => none

/-- The entry `migrateExport` pushes for each agent it stages. -/
def exportAgentManifest (cm : CaseMapping) (list : List AgentListEntry) (defaultAgentId agentId : String) :
    MigrateAgentManifest :=
  ⟨agentId, resolveAgentDisplayName cm list agentId, resolveAgentDisplayModel cm list agentId,
    agentId == defaultAgentId, join ["agents", agentId, "workspace"]⟩

/-! ## The manifest -/

/-- `mergeRedactStats`: the counters added up from zero. -/
def mergeRedactStats (sources : List RedactStats) : RedactStats :=
  sources.foldl (fun acc s => ⟨acc.filesScanned + s.filesScanned, acc.filesChanged + s.filesChanged,
    acc.replacements + s.replacements⟩) .zero

/-- `MigrateBundle`. -/
structure MigrateBundle where
  version : ℚ
  bundleId : String
  createdAt : String
  sourceOS : String
  sourceArch : String
  sourceHomedir : Option String
  agents : List MigrateAgentManifest
  hasManagedSkills : Bool
  hasPersonalSkills : Bool
  hasSessions : Bool
  redaction : RedactStats

/-- `buildManifest`, with the random bundle id, the clock, `process.platform`, `process.arch`
and `os.homedir()` given. -/
def buildManifest (bundleId createdAt sourceOS sourceArch sourceHomedir : String)
    (agents : List MigrateAgentManifest) (hasManagedSkills hasPersonalSkills hasSessions : Bool)
    (redaction : RedactStats) : MigrateBundle :=
  ⟨migrateBundleVersion, bundleId, createdAt, sourceOS, sourceArch, some sourceHomedir, agents,
    hasManagedSkills, hasPersonalSkills, hasSessions, redaction⟩

/-- What the export takes from the machine it runs on. -/
structure ExportEnv where
  /-- `redactSensitiveText` with the default patterns. -/
  redact : String → String
  /-- `String.prototype.toLowerCase` and `toUpperCase`. -/
  cases : CaseMapping
  /-- `WORKSPACE_CORE_FILES`. -/
  coreFiles : List String
  /-- The staging directory `fs.mkdtemp` made. -/
  stagingDir : String
  /-- `cfg.agents.list`. -/
  agentList : List AgentListEntry
  /-- `resolveDefaultAgentId(cfg)`. -/
  defaultAgentId : String
  /-- The node at `resolveAgentWorkspaceDir(cfg, agentId)`. -/
  workspaceOf : String → FsNode
  /-- The nodes at `CONFIG_DIR/skills` and `~/.agents/skills`. -/
  managedSkills : Option FsNode
  personalSkills : Option FsNode
  bundleId : String
  createdAt : String
  sourceOS : String
  sourceArch : String
  sourceHomedir : String
  /-- `listAgentIds(cfg)`. -/
  listAgentIds : List String
  /-- `resolveSessionStoreTargets(cfg, { allAgents: true })`. -/
  sessionTargets : List SessionStoreTarget
  /-- `loadSessionStore(storePath)`: the store's entries in property order, `none` where it
  throws. -/
  loadSessionStore : String → Option (List (String × Option SessionStoreEntry))
  readSessionTitleFieldsFromTranscript : String → String → Option String → String → SessionTitleFields

/-- `MigrateExportOptions`, without the output path. -/
structure MigrateExportOptions where
  agentId : Option String
  maxSessions : Option JsNumber
  noSessions : Bool
  noSkills : Bool

/-- The `export` action of `registerMigrateCommands`: commander's options as `migrateExport` gets
them. `--max-sessions <n>` is coerced with `parseInt`, and `--no-sessions` and `--no-skills` set
`sessions` and `skills` to `false`. -/
def exportCommandOptions (agent maxSessions : Option String) (sessions skills : Bool) :
    MigrateExportOptions :=
  ⟨agent, maxSessions.map parseInt, !sessions, !skills⟩

/-- `opts.agentId ? [opts.agentId] : listAgentIds(cfg)`. -/
def exportAgentIds (env : ExportEnv) (agentId : Option String) : List String :=
  match agentId with
  | some id => if id = "" then env.listAgentIds else [id]
  | none => env.listAgentIds

/-- The store targets whose sessions are summarized: those of the requested agent, if any. -/
def exportSessionTargets (env : ExportEnv) (agentId : Option String) : List SessionStoreTarget :=
  match agentId with
  | some id => if id = "" then env.sessionTargets else env.sessionTargets.filter (·.agentId = id)
  | none => env.sessionTargets

/-- The session loop of `migrateExport`: the targets with summaries, and their summaries, unless
`--no-sessions`. `maxSessions` defaults to 200. -/
def exportSessionSummaries (env : ExportEnv) (opts : MigrateExportOptions) :
    List (SessionStoreTarget × List SessionSummaryEntry) :=
  if opts.noSessions then [] else
  (exportSessionTargets env opts.agentId).filterMap fun target =>
    let summaries := buildSessionSummaries env.redact env.readSessionTitleFieldsFromTranscript target
      (env.loadSessionStore target.storePath) (opts.maxSessions.getD (.finite 200))
    if summaries.length > 0 then some (target, summaries) else none

/-- `dirHasContent` of a staged skills directory: it exists and has an entry. -/
def dirHasContent : Option FsNode → Bool
  | some (.dir (_ :: _)) => true
  | _ => false

/-- The skills part of the staging: the counters of the two copies, and whether each staged
directory has content. -/
def stageSkillsBoth (env : ExportEnv) : Except FsError (List RedactStats × Bool × Bool) := do
  let managed ← stageManagedSkills env.cases env.redact env.stagingDir env.managedSkills
  let personal ← stagePersonalSkills env.cases env.redact env.stagingDir env.personalSkills
  pure ([managed.2, personal.2], dirHasContent managed.1, dirHasContent personal.1)

/-- One turn of the agents loop: the counters of the agent's staged workspace. -/
def stageAgentStats (env : ExportEnv) (agentId : String) : Except FsError RedactStats := do
  return (← stageAgentWorkspace env.cases env.redact env.coreFiles agentId env.stagingDir (env.workspaceOf agentId)).2

/-- `migrateExport` up to the manifest: each agent's workspace is staged, then the skills unless
`--no-skills`, then the sessions are summarized unless `--no-sessions`, and the manifest is built
from the agents' entries, the skills and sessions found and the merged counters. The first error
ends the export. -/
def migrateExport (env : ExportEnv) (opts : MigrateExportOptions) : Except FsError MigrateBundle := do
  let agentIds := exportAgentIds env opts.agentId
  let agentStats ← agentIds.mapM (stageAgentStats env)
  let skills ← if opts.noSkills then pure ([], false, false) else stageSkillsBoth env
  pure (buildManifest env.bundleId env.createdAt env.sourceOS env.sourceArch env.sourceHomedir
    (agentIds.map (exportAgentManifest env.cases env.agentList env.defaultAgentId)) skills.2.1 skills.2.2
    (!(exportSessionSummaries env opts).isEmpty) (mergeRedactStats (agentStats ++ skills.1)))

/-! ## Reading the manifest back -/

def ReadManifestError.notFoundMessage : String :=
  "Invalid bundle: manifest.json not found. Is this a valid qverisbot bundle?"

theorem mergeRedactStats_foldl (sources : List RedactStats) :
    ∀ acc : RedactStats, acc.Consistent → (∀ s ∈ sources, s.Consistent) →
      (sources.foldl (fun acc s => (⟨acc.filesScanned + s.filesScanned, acc.filesChanged + s.filesChanged,
        acc.replacements + s.replacements⟩ : RedactStats)) acc).Consistent := by
  induction sources with
  | nil => exact fun acc hacc _ => hacc
  | cons s sources ih =>
    intro acc hacc hs
    obtain ⟨hr, hc⟩ := hacc
    obtain ⟨hr', hc'⟩ := hs s (List.mem_cons_self _ _)
    exact ih _ ⟨by simp only [hr, hr'], Nat.add_le_add hc hc'⟩ fun t ht => hs t (List.mem_cons_of_mem _ ht)

theorem mapM_ok_forall {α β ε : Type} {f : α → Except ε β} {P : β → Prop}
    (hf : ∀ a b, f a = .ok b → P b) : ∀ {l : List α} {bs : List β}, l.mapM f = .ok bs → ∀ b ∈ bs, P b
  | [], bs, h => by cases h; simp
  | a :: l, bs, h => by
    rw [List.mapM_cons] at h
    cases ha : f a with
    | error e => rw [ha] at h; cases h
    | ok b =>
      cases hl : l.mapM f with
      | error e => rw [ha, hl] at h; cases h
      | ok bs' =>
        rw [ha, hl] at h
        cases h
        intro c hc
        rcases List.mem_cons.mp hc with rfl | hc
        · exact hf a c ha
        · exact mapM_ok_forall hf hl c hc

theorem stageAgentWorkspace_consistent {cm : CaseMapping} {redact : String → String}
    {coreFiles : List String} {agentId stagingDir : String} {workspace : FsNode}
    {staged : FsNode × RedactStats}
    (h : stageAgentWorkspace cm redact coreFiles agentId stagingDir workspace = .ok staged) :
    staged.2.Consistent := by
  obtain ⟨_, -, rfl⟩ := stageAgentWorkspace_staged cm h
  exact redactDirectoryInPlace_consistent cm _ _ _

theorem stageSkills_consistent {cm : CaseMapping} {redact : String → String} {dest : String}
    {skills : Option FsNode} {staged : Option FsNode × RedactStats}
    (h : stageSkills cm redact dest skills = .ok staged) : staged.2.Consistent := by
  rcases stageSkills_staged cm h with ⟨-, rfl⟩ | ⟨_, -, -, h2⟩
  · exact ⟨rfl, le_refl 0⟩
  · exact h2 ▸ redactDirectoryInPlace_consistent cm _ _ _

theorem stageSkillsBoth_consistent {env : ExportEnv} {skills : List RedactStats × Bool × Bool}
    (h : stageSkillsBoth env = .ok skills) : ∀ s ∈ skills.1, s.Consistent := by
  unfold stageSkillsBoth at h
  cases hm : stageManagedSkills env.cases env.redact env.stagingDir env.managedSkills with
  | error e => simp [hm, bind, Except.bind] at h
  | ok managed =>
    cases hp : stagePersonalSkills env.cases env.redact env.stagingDir env.personalSkills with
    | error e => simp [hm, hp, bind, Except.bind] at h
    | ok personal =>
      simp only [hm, hp, bind, Except.bind, pure, Except.pure, Except.ok.injEq] at h
      subst h
      intro s hs
      simp only [List.mem_cons, List.mem_singleton, List.not_mem_nil, or_false] at hs
      rcases hs with rfl | rfl
      · exact stageSkills_consistent hm
      · exact stageSkills_consistent hp

theorem stageAgentStats_consistent {env : ExportEnv} {agentId : String} {stats : RedactStats}
    (h : stageAgentStats env agentId = .ok stats) : stats.Consistent := by
  unfold stageAgentStats at h
  cases hs : stageAgentWorkspace env.cases env.redact env.coreFiles agentId env.stagingDir (env.workspaceOf agentId) with
  | error e => rw [hs] at h; cases h
  | ok staged =>
    rw [hs] at h
    cases h
    exact stageAgentWorkspace_consistent hs

theorem migrateExport_ok {env : ExportEnv} {opts : MigrateExportOptions} {m : MigrateBundle}
    (h : migrateExport env opts = .ok m) :
    ∃ agentStats skills, (exportAgentIds env opts.agentId).mapM (stageAgentStats env) = .ok agentStats ∧
      (if opts.noSkills then pure ([], false, false) else stageSkillsBoth env) = .ok skills ∧
      m = buildManifest env.bundleId env.createdAt env.sourceOS env.sourceArch env.sourceHomedir
        ((exportAgentIds env opts.agentId).map (exportAgentManifest env.cases env.agentList env.defaultAgentId))
        skills.2.1 skills.2.2 (!(exportSessionSummaries env opts).isEmpty)
        (mergeRedactStats (agentStats ++ skills.1)) := by
  unfold migrateExport at h
  dsimp only at h
  cases ha : (exportAgentIds env opts.agentId).mapM (stageAgentStats env) with
  | error e => rw [ha] at h; cases h
  | ok agentStats =>
    rw [ha] at h
    cases hn : opts.noSkills with
    | true => rw [hn] at h; cases h; exact ⟨agentStats, _, rfl, rfl, rfl⟩
    | false =>
      cases hs : stageSkillsBoth env with
      | error e => simp only [bind, Except.bind, hn, hs, if_false, Bool.false_eq_true] at h; cases h
      | ok skills =>
        simp only [bind, Except.bind, hn, hs, if_false, Bool.false_eq_true] at h; cases h
        exact ⟨agentStats, skills, rfl, rfl, rfl⟩

/-! ## Printing and reading back -/

section Bundle

variable (m : MigrateBundle)

end Bundle

/-! ## The theorems -/

/-- **The counters in the manifest.** After any export run that finishes, the manifest's
`redaction` has `replacements = filesChanged ≤ filesScanned`: whatever the redactor does, each
changed file counts one replacement. -/
theorem migrateExport_redaction {env : ExportEnv} {opts : MigrateExportOptions} {m : MigrateBundle}
    (h : migrateExport env opts = .ok m) : m.redaction.Consistent := by
  obtain ⟨agentStats, skills, ha, hs, rfl⟩ := migrateExport_ok h
  have hskills : ∀ s ∈ skills.1, s.Consistent := by
    cases hn : opts.noSkills <;> rw [hn] at hs
    · exact stageSkillsBoth_consistent hs
    · cases hs; simp
  exact mergeRedactStats_foldl _ _ ⟨rfl, le_refl 0⟩ fun s hs' =>
    (List.mem_append.mp hs').elim (mapM_ok_forall (fun _ _ => stageAgentStats_consistent) ha s) (hskills s)

/-- One agent whose workspace holds a key in `AGENTS.md`, no skills. -/
def sampleExportEnv : ExportEnv where
  redact := fun text => if text = "key=sk-1" then "key=***" else text
  cases := asciiCaseMapping
  coreFiles := ["AGENTS.md"]
  stagingDir := "/tmp/qverisbot-export-1"
  agentList := [⟨some "Main", some " Ada ", some (.text "gpt")⟩]
  defaultAgentId := "main"
  workspaceOf := fun _ => .dir [("AGENTS.md", .file "key=sk-1")]
  managedSkills := none
  personalSkills := none
  bundleId := "b"
  createdAt := "t"
  sourceOS := "linux"
  sourceArch := "x64"
  sourceHomedir := "/home/u"
  listAgentIds := ["main"]
  sessionTargets := []
  loadSessionStore := fun _ => none
  readSessionTitleFieldsFromTranscript := fun _ _ _ _ => ⟨none, none⟩

/-- `migrate export` with no options. -/
def sampleExportOptions : MigrateExportOptions := ⟨none, none, false, false⟩

/-- The manifest of its export. -/
def sampleBundle : MigrateBundle :=
  buildManifest "b" "t" "linux" "x64" "/home/u" [⟨"main", some "Ada", some "gpt", true, "agents/main/workspace"⟩]
    false false false ⟨1, 1, 1⟩

theorem migrateExport_sampleRun : migrateExport sampleExportEnv sampleExportOptions = .ok sampleBundle :=
  rfl

theorem migrateExport_redaction_sample :
    migrateExport sampleExportEnv sampleExportOptions = .ok sampleBundle ∧ sampleBundle.redaction.Consistent :=
  ⟨migrateExport_sampleRun, migrateExport_redaction migrateExport_sampleRun⟩

/-- **When the bundle says it has sessions.** After any export run that finishes, the manifest's
`hasSessions` is set exactly when `--no-sessions` is off, `maxSessions` is not `NaN` (what
`parseInt` gives for `--max-sessions all`), and one of the summarized stores (the requested
agent's, or all of them) loads and holds a session with an id. A `maxSessions` of zero or less
does not turn the summaries off. -/
theorem migrateExport_hasSessions {env : ExportEnv} {opts : MigrateExportOptions} {m : MigrateBundle}
    (h : migrateExport env opts = .ok m) :
    m.hasSessions = true ↔ opts.noSessions = false ∧
      (opts.maxSessions.getD (.finite 200)).isNaN = false ∧
      ∃ target ∈ exportSessionTargets env opts.agentId, ∃ store,
        env.loadSessionStore target.storePath = some store ∧ summarizable store ≠ [] := by
  obtain ⟨-, -, -, -, rfl⟩ := migrateExport_ok h
  cases hn : opts.noSessions
  · simp [buildManifest, exportSessionSummaries, hn, List.filterMap_eq_nil_iff,
      buildSessionSummaries_ne_nil_iff]
    exact ⟨fun ⟨t, ht, hp, hq⟩ => ⟨hp, t, ht, hq⟩, fun ⟨hp, t, ht, hq⟩ => ⟨t, ht, hp, hq⟩⟩
  · simp [buildManifest, exportSessionSummaries, hn]

/-- The sample agent with one session in its store. -/
def sessionsExportEnv : ExportEnv :=
  { sampleExportEnv with
    sessionTargets := [⟨"main", "/s/agents/main/sessions/sessions.json"⟩]
    loadSessionStore := fun _ => some [("agent:main:main", some ⟨some "s1", some 1, none⟩)] }

theorem migrateExport_hasSessions_all :
    migrateExport sessionsExportEnv (exportCommandOptions none (some "all") true true) =
        .ok sampleBundle ∧
      (sampleBundle.hasSessions = true ↔
        (exportCommandOptions none (some "all") true true).noSessions = false ∧
        ((exportCommandOptions none (some "all") true true).maxSessions.getD (.finite 200)).isNaN =
          false ∧
        ∃ target ∈ exportSessionTargets sessionsExportEnv
            (exportCommandOptions none (some "all") true true).agentId, ∃ store,
          sessionsExportEnv.loadSessionStore target.storePath = some store ∧
            summarizable store ≠ []) :=
  ⟨rfl, migrateExport_hasSessions rfl⟩

end QverisBot.Migrate
