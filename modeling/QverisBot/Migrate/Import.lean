import QverisBot.Node.Path
import QverisBot.Migrate.Manifest

/-! # Where `migrate import` reads and writes workspaces

`migrateImport`: the extraction directory, `resolveTargetWorkspaceDir`, and the copy
`placeAgentWorkspace` makes for each agent of the manifest.
-/

namespace QverisBot.Migrate

open QverisBot.Node

/-- What the import takes from the machine it runs on. -/
structure ImportEnv where
  /-- `os.tmpdir()`. -/
  tmpdir : String
  /-- The characters `fs.mkdtemp` appends to its prefix. -/
  tempSuffix : String
  /-- `resolveStateDir(process.env)`. -/
  stateDir : String
  /-- `resolveDefaultAgentWorkspaceDir()`. -/
  defaultAgentWorkspaceDir : String
  resolveUserPath : String → String

/-- `fs.mkdtemp(prefix)`. -/
def mkdtemp (pfx suffix : String) : String := pfx ++ suffix

/-- The extraction directory `mkdtemp(path.join(os.tmpdir(), "qverisbot-import-"))`. -/
def extractDir (env : ImportEnv) : String :=
  mkdtemp (join [env.tmpdir, "qverisbot-import-"]) env.tempSuffix

def resolveTargetWorkspaceDir (env : ImportEnv) (agentId : String) (isDefault : Bool)
    (workspaceOpt : Option String) : String :=
  match workspaceOpt.filter (· != "") with
  | some workspace => env.resolveUserPath workspace
  | none => if isDefault then env.defaultAgentWorkspaceDir else join [env.stateDir, "workspace-" ++ agentId]

/-- A recursive copy from one directory into another: when `source` exists, `target` is made
and every file of `source` is copied into it, over existing files only with `overwrite`. -/
structure WorkspaceCopy where
  source : String
  target : String
  overwrite : Bool
  deriving DecidableEq, Repr

/-- `placeAgentWorkspace`: the copy of the agent's workspace out of the bundle. -/
def placeAgentWorkspace (extractDir _agentId bundleWorkspacePath targetWorkspaceDir : String)
    (overwrite : Bool) : WorkspaceCopy :=
  ⟨join [extractDir, bundleWorkspacePath], targetWorkspaceDir, overwrite⟩

/-- The per-agent loop of `migrateImport`: one copy per agent, in manifest order. -/
def placeWorkspaces (env : ImportEnv) (workspaceOpt : Option String) (overwrite : Bool)
    (agents : List MigrateAgentManifest) : List WorkspaceCopy :=
  agents.map fun agent =>
    placeAgentWorkspace (extractDir env) agent.agentId agent.workspacePath
      (resolveTargetWorkspaceDir env agent.agentId agent.isDefault workspaceOpt) overwrite

/-! ## The paths -/

theorem extractDir_ne_empty (env : ImportEnv) : extractDir env ≠ "" := by
  intro h
  have := congrArg String.data h
  simp only [extractDir, mkdtemp, String.append] at this
  exact join_ne_empty _ (String.ext (List.append_eq_nil.mp this).1)

theorem isName_workspace (agentId : String) : isName ("workspace-" ++ agentId).data = true := by
  simp [isName, String.append, dotdot]

theorem slash_mem_workspace_iff (agentId : String) :
    '/' ∈ ("workspace-" ++ agentId).data ↔ '/' ∈ agentId.data := by
  simp [String.append]

theorem resolveTargetWorkspaceDir_nonDefault (env : ImportEnv) (agentId : String) :
    resolveTargetWorkspaceDir env agentId false none = join [env.stateDir, "workspace-" ++ agentId] :=
  rfl

/-! ## The theorems -/

/-- **Import paths.** For every agent, with no `--workspace` option, the workspace is read from
inside the extraction directory whenever its bundle path has no `..` segment, and a non-default
agent's target is the direct child `workspace-<agentId>` of the state directory exactly when the
id has no `/`. `validateManifest` checks nothing inside `agents` (`validateManifest_agents`), so
this is every agent an accepted manifest can list. -/
theorem import_workspace_paths (env : ImportEnv) (agent : MigrateAgentManifest) (overwrite : Bool) :
    (dotdot ∉ agent.workspacePath.data.splitOn '/' →
      isWithin (extractDir env) (placeAgentWorkspace (extractDir env) agent.agentId
        agent.workspacePath (resolveTargetWorkspaceDir env agent.agentId agent.isDefault none)
        overwrite).source) ∧
    (isChildNamed env.stateDir (resolveTargetWorkspaceDir env agent.agentId false none)
      ("workspace-" ++ agent.agentId) ↔ '/' ∉ agent.agentId.data) := by
  refine ⟨fun h => isWithin_join (extractDir_ne_empty env) h, ?_⟩
  rw [resolveTargetWorkspaceDir_nonDefault, isChildNamed_join_iff _ (isName_workspace _),
    slash_mem_workspace_iff]

theorem import_workspace_paths_ops :
    dotdot ∉ "agents/ops/workspace".data.splitOn '/' ∧
    isWithin (extractDir ⟨"/tmp", "abc123", "/home/u/.openclaw", "/home/u/.openclaw/workspace", id⟩)
      (placeAgentWorkspace (extractDir ⟨"/tmp", "abc123", "/home/u/.openclaw", "/home/u/.openclaw/workspace", id⟩)
        "ops" "agents/ops/workspace"
        (resolveTargetWorkspaceDir ⟨"/tmp", "abc123", "/home/u/.openclaw", "/home/u/.openclaw/workspace", id⟩
          "ops" false none) false).source ∧
    (isChildNamed "/home/u/.openclaw"
        (resolveTargetWorkspaceDir ⟨"/tmp", "abc123", "/home/u/.openclaw", "/home/u/.openclaw/workspace", id⟩
          "ops" false none) ("workspace-" ++ "ops") ↔ '/' ∉ "ops".data) :=
  ⟨by decide, (import_workspace_paths ⟨"/tmp", "abc123", "/home/u/.openclaw",
      "/home/u/.openclaw/workspace", id⟩ ⟨"ops", none, none, false, "agents/ops/workspace"⟩ false).1
      (by decide),
    (import_workspace_paths ⟨"/tmp", "abc123", "/home/u/.openclaw", "/home/u/.openclaw/workspace", id⟩
      ⟨"ops", none, none, false, "agents/ops/workspace"⟩ false).2⟩

/-- **A crafted manifest escapes.** The manifest is accepted, its workspace path `../outside`
is read from outside the extraction directory, and the agent id `a/../../../etc` puts the
target at `/home/etc`. -/
theorem import_workspace_paths_escape :
    validateManifest (.object [("version", .number 1), ("agents", .array [.object
        [("agentId", .string "a/../../../etc"), ("isDefault", .bool false),
          ("workspacePath", .string "../outside")]])]) =
      .ok (.object [("version", .number 1), ("agents", .array [.object
        [("agentId", .string "a/../../../etc"), ("isDefault", .bool false),
          ("workspacePath", .string "../outside")]])]) ∧
    MigrateAgentManifest.ofJson? (.object [("agentId", .string "a/../../../etc"),
        ("isDefault", .bool false), ("workspacePath", .string "../outside")]) =
      some ⟨"a/../../../etc", none, none, false, "../outside"⟩ ∧
    let env : ImportEnv := ⟨"/tmp", "abc123", "/home/u/.openclaw", "/home/u/.openclaw/workspace", id⟩
    (placeAgentWorkspace (extractDir env) "a/../../../etc" "../outside"
        (resolveTargetWorkspaceDir env "a/../../../etc" false none) false) =
      ⟨"/tmp/outside", "/home/etc", false⟩ ∧
    ¬ isWithin (extractDir env) "/tmp/outside" ∧
    ¬ isChildNamed env.stateDir "/home/etc" ("workspace-" ++ "a/../../../etc") :=
  ⟨validateManifest_agents _, rfl, by decide, by decide, by decide⟩

end QverisBot.Migrate
