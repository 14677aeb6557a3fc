import QverisBot.Js.Number
import QverisBot.Json

/-! # The bundle manifest

`src/commands/migrate/manifest.ts`. `manifest.json` is parsed into a JSON value;
`validateManifest` checks its shape and returns it as it is (a cast to `MigrateBundle`).
-/

namespace QverisBot.Migrate

def migrateBundleVersion : ℚ := 1

inductive ManifestError
  | notAnObject
  | missingVersion
  | newerVersion (version : ℚ)
  | missingAgents

/-- The thrown texts. A version is printed by the template literal as the double it reads as. -/
def ManifestError.message : ManifestError → String
  | .notAnObject => "Invalid bundle: manifest.json is not an object"
  | .missingVersion => "Invalid bundle: manifest.json missing valid version"
  | .newerVersion v => "Bundle version " ++ (Js.JsNumber.roundDouble v).toString ++
      " is newer than this tool supports (" ++ (Js.JsNumber.finite migrateBundleVersion).toString ++
      "). Upgrade qverisbot and retry."
  | .missingAgents => "Invalid bundle: manifest.json missing agents array"

/-- `validateManifest`: the manifest itself, once it is an object with a supported version and
an `agents` array. Nothing inside `agents` is checked. -/
def validateManifest (raw : JsonValue) : Except ManifestError JsonValue :=
  if !raw.isObject then .error .notAnObject else
  match raw.field "version" with
  | some (.number v) =>
    if v < 1 then .error .missingVersion
    else if v > migrateBundleVersion then .error (.newerVersion v)
    else match raw.field "agents" with
      | some (.array _) => .ok raw
      | _ => .error .missingAgents
  | _ => .error .missingVersion

/-- `MigrateAgentManifest`, as the import reads it from one `agents` entry: the entries whose
fields have their declared types. -/
structure MigrateAgentManifest where
  agentId : String
  name : Option String
  model : Option String
  isDefault : Bool
  /-- The path of the workspace inside the bundle, e.g. `agents/main/workspace`. -/
  workspacePath : String
  deriving DecidableEq, Repr

def MigrateAgentManifest.ofJson? (entry : JsonValue) : Option MigrateAgentManifest :=
  match JsonValue.string? (entry.field "agentId"), entry.field "isDefault",
      JsonValue.string? (entry.field "workspacePath") with
  | some agentId, some (.bool isDefault), some workspacePath =>
    some ⟨agentId, JsonValue.string? (entry.field "name"), JsonValue.string? (entry.field "model"),
      isDefault, workspacePath⟩
  | _, _, _ => none

theorem validateManifest_agents (agents : List JsonValue) :
    validateManifest (.object [("version", .number 1), ("agents", .array agents)]) =
      .ok (.object [("version", .number 1), ("agents", .array agents)]) := by
  simp [validateManifest, JsonValue.isObject, JsonValue.field, migrateBundleVersion,
    show ¬(1 : ℚ) < 1 by decide]

end QverisBot.Migrate
