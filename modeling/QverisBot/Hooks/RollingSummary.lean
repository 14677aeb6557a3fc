import QverisBot.Hooks.RollingMemory
import QverisBot.Hooks.SmartMemory.Proofs
import QverisBot.Json.Stringify
import Mathlib.Data.List.Sort

/-! # The rolling summary

The rest of the rolling-memory handler of `src/cron/isolated-agent/delivery-target.ts`:
`collectRecentMessages` reads every session of the store updated within the window and
groups the messages of their transcripts by date in a `Map`; `buildRollingMarkdown` writes
one section per date, the most recent first; `rollingMemoryHandler` writes that text to
`memory/rolling-7d.md` of the agent's workspace.

The `Map` loop is proved to compute a plain group-by (`groupedByDate`), and the file's lines
are read back with `List.splitOn`: no message text adds a line. `new Date(value)`, the
comparison of a stored `updatedAt` that is not a number, and `localeCompare` are parameters.
-/

namespace QverisBot.Hooks

open QverisBot.Js QverisBot.Node

/-- What the collector takes from the machine beyond the transcript reader. -/
structure RollingCollectorEnv extends RollingMemoryEnv where
  /-- `value < cutoff` for a stored `updatedAt` that is not a number. -/
  lessThan : JsonValue → ℚ → Bool

/-- What the hook takes from the rest of the program and the machine. -/
structure RollingMemoryHookEnv (Cfg : Type) extends RollingCollectorEnv where
  /-- `os.homedir()`. -/
  homedir : String
  /-- `process.env.OPENCLAW_STATE_DIR`. -/
  stateDirVar : Option String
  resolveAgentIdFromSessionKey : String → String
  resolveAgentWorkspaceDir : Cfg → String → String
  /-- `resolveHookConfig(cfg, name)`. -/
  resolveHookConfig : Option Cfg → String → Option JsonValue
  /-- `a.localeCompare(b)`: negative, zero or positive. -/
  localeCompare : String → String → Int

structure RollingHookEvent (Cfg : Type) where
  type : String
  action : String
  sessionKey : String
  timestamp : TimeValue
  cfg : Option Cfg
  /-- `context.storePath`, when it is a string. -/
  storePath : Option String

/-! ## The session store -/

/-- The number a key names when it is an array index: its decimal form, below `2^32 - 1`. -/
def arrayIndex? (key : String) : Option Nat :=
  let n := Json.digitsValue key.data
  if toString n = key ∧ n < 4294967295 then some n else none

/-- `Object.entries` of an object `JSON.parse` built from `members`: each key once, with the
value it was last set to, array indices first in numeric order, then the other keys in the
order they were first set. -/
def objectEntries (members : List (String × JsonValue)) : List (String × JsonValue) :=
  let keys := (members.map (·.1)).eraseDups
  let indices := ((keys.filterMap fun k => (arrayIndex? k).map (·, k)).insertionSort
    (·.1 ≤ ·.1)).map (·.2)
  let named := keys.filter fun k => (arrayIndex? k).isNone
  (indices ++ named).filterMap fun k => ((JsonValue.object members).field k).map (k, ·)

/-- The store's entries; none where the file is unreadable, not JSON, or not an object. -/
def loadSessionStoreSimple (fs : FileSystem) (storePath : String) : List (String × JsonValue) :=
  match (readFile fs storePath).bind Json.parse with
  | some (.object members) => objectEntries members
  | _ => []

/-! ## Collecting by date -/

/-- `now.getTime() - days * 24 * 60 * 60 * 1000`. -/
def rollingCutoff (days : ℚ) (now : TimeValue) : ℚ := now.ms - days * 86400000

/-- `entry.updatedAt < cutoff`. -/
def belowCutoff (env : RollingCollectorEnv) (value : JsonValue) (cutoff : ℚ) : Bool :=
  match value with
  | .number q => decide (q < cutoff)
  | v => env.lessThan v cutoff

/-- The messages one store entry adds: `some []` where the loop continues, `none` where
`new Date(entry.updatedAt).toISOString()` throws. -/
def entryMessages (env : RollingCollectorEnv) (fs : FileSystem) (cutoff : ℚ) (entry : JsonValue) :
    Option (List RollingMessage) :=
  if !entry.isObject then some [] else
  match entry.field "updatedAt" with
  | none => some []
  | some updatedAt =>
    if !updatedAt.truthy || belowCutoff env updatedAt cutoff then some [] else
    match entry.field "sessionFile" with
    | some (.string sessionFile) =>
      if sessionFile = "" ∨ fs (normalize sessionFile) = none then some [] else
      (env.newDate updatedAt).map fun t =>
        parseTranscriptMessages env.toRollingMemoryEnv fs sessionFile (isoDate t)
    | _ => some []

/-- `byDate.get(msg.date) || []`, `push`, `byDate.set(msg.date, bucket)`: a `Map` keeps a key
in the place it was first set. -/
def pushToBucket :
    List (String × List RollingMessage) → RollingMessage → List (String × List RollingMessage)
  | [], msg => [(msg.date, [msg])]
  | (date, bucket) :: rest, msg =>
    if date = msg.date then (date, bucket ++ [msg]) :: rest
    else (date, bucket) :: pushToBucket rest msg

/-- One turn of the loop over the store: the entry's messages, each pushed to its date. -/
def collectStep (env : RollingCollectorEnv) (fs : FileSystem) (cutoff : ℚ)
    (byDate : List (String × List RollingMessage)) (entry : String × JsonValue) :
    Option (List (String × List RollingMessage)) := do
  let messages ← entryMessages env fs cutoff entry.2
  pure (messages.foldl pushToBucket byDate)

def collectRecentMessages (env : RollingCollectorEnv) (fs : FileSystem) (storePath : String)
    (days : ℚ) (now : TimeValue) : Option (List (String × List RollingMessage)) :=
  (loadSessionStoreSimple fs storePath).foldlM (collectStep env fs (rollingCutoff days now)) []

/-- The messages the collector reads, in store and file order; `none` where a session's date
throws. -/
def recentMessages (env : RollingCollectorEnv) (fs : FileSystem) (storePath : String)
    (days : ℚ) (now : TimeValue) : Option (List RollingMessage) :=
  ((loadSessionStoreSimple fs storePath).mapM fun entry =>
    entryMessages env fs (rollingCutoff days now) entry.2).map List.flatten

/-- Messages grouped by date: each date once, in the order of its first message, with its
messages in their order. -/
def groupedByDate (messages : List RollingMessage) : List (String × List RollingMessage) :=
  (messages.map (·.date)).eraseDups.map fun date => (date, messages.filter (·.date = date))

/-! ## First occurrences -/

section eraseDups

variable {α : Type} [BEq α]

theorem eraseDups_loop_append (l r bs : List α) :
    List.eraseDups.loop (l ++ r) bs = List.eraseDups.loop r (List.eraseDups.loop l bs).reverse := by
  induction l generalizing bs with
  | nil => rw [List.nil_append, List.eraseDups.loop, List.reverse_reverse]
  | cons a l ih =>
    rw [List.cons_append, List.eraseDups.loop, List.eraseDups.loop]
    cases bs.elem a <;> exact ih _

theorem eraseDups_append_singleton [LawfulBEq α] (l : List α) (a : α) :
    (l ++ [a]).eraseDups = if a ∈ l.eraseDups then l.eraseDups else l.eraseDups ++ [a] := by
  unfold List.eraseDups
  rw [eraseDups_loop_append]
  cases h : (List.eraseDups.loop l []).reverse.elem a <;>
    simp_all [List.eraseDups.loop, List.elem_eq_mem]

theorem mem_eraseDups [LawfulBEq α] {a : α} {l : List α} : a ∈ l.eraseDups ↔ a ∈ l := by
  induction l using List.reverseRecOn with
  | nil => rfl
  | append_singleton l b ih =>
    rw [eraseDups_append_singleton, List.mem_append, List.mem_singleton]
    split
    · next hb => exact ⟨fun h => .inl (ih.mp h), fun h => h.elim ih.mpr fun h => h ▸ hb⟩
    · rw [List.mem_append, List.mem_singleton, ih]

theorem nodup_eraseDups [LawfulBEq α] (l : List α) : l.eraseDups.Nodup := by
  induction l using List.reverseRecOn with
  | nil => exact List.nodup_nil
  | append_singleton l b ih =>
    rw [eraseDups_append_singleton]
    split
    · exact ih
    · exact List.nodup_append.mpr ⟨ih, List.nodup_singleton b, by simpa using ‹_›⟩

end eraseDups

/-! ## The `Map` loop is a group-by -/

theorem pushToBucket_map {dates : List String} (hdates : dates.Nodup)
    (g : String → List RollingMessage) (msg : RollingMessage) :
    pushToBucket (dates.map fun d => (d, g d)) msg =
      if msg.date ∈ dates then dates.map fun d => (d, if d = msg.date then g d ++ [msg] else g d)
      else dates.map (fun d => (d, g d)) ++ [(msg.date, [msg])] := by
  obtain ⟨role, text, date⟩ := msg
  induction dates with
  | nil => rfl
  | cons d dates ih =>
    obtain ⟨hd, hrest⟩ := List.nodup_cons.mp hdates
    by_cases h : d = date
    · subst h
      have hother : ∀ d' ∈ dates, d' ≠ d := fun d' hd' heq => hd (heq ▸ hd')
      simp only [List.map_cons, pushToBucket, eq_self_iff_true, if_true, List.mem_cons_self]
      exact congrArg _ (List.map_congr_left fun d' hd' => by rw [if_neg (hother d' hd')])
    · simp only [List.map_cons, pushToBucket, h, if_false, ih hrest, List.mem_cons, Ne.symm h,
        false_or]
      split <;> rfl

theorem pushToBucket_groupedByDate (messages : List RollingMessage) (msg : RollingMessage) :
    pushToBucket (groupedByDate messages) msg = groupedByDate (messages ++ [msg]) := by
  unfold groupedByDate
  rw [pushToBucket_map (nodup_eraseDups _), List.map_append, List.map_singleton,
    eraseDups_append_singleton]
  split_ifs with hseen
  · refine List.map_congr_left fun d _ => ?_
    by_cases h : d = msg.date
    · simp [List.filter_append, h]
    · simp [List.filter_append, h, Ne.symm h]
  · have hold : ∀ m ∈ messages, m.date ≠ msg.date := fun m hm heq =>
      hseen (mem_eraseDups.mpr (List.mem_map.mpr ⟨m, hm, heq⟩))
    rw [List.map_append, List.map_singleton]
    refine congrArg₂ _ (List.map_congr_left fun d hd => ?_) ?_
    · have h : d ≠ msg.date := fun h => hseen (h ▸ hd)
      simp [List.filter_append, Ne.symm h]
    · simpa [List.filter_append] using hold

/-- **The loop over one transcript.** Pushing messages one by one extends the group-by. -/
theorem foldl_pushToBucket (messages more : List RollingMessage) :
    more.foldl pushToBucket (groupedByDate messages) = groupedByDate (messages ++ more) := by
  induction more generalizing messages with
  | nil => rw [List.append_nil]; rfl
  | cons msg more ih =>
    rw [List.foldl_cons, pushToBucket_groupedByDate, ih, List.append_assoc, List.singleton_append]

theorem foldlM_collectStep (env : RollingCollectorEnv) (fs : FileSystem) (cutoff : ℚ) :
    ∀ (entries : List (String × JsonValue)) (acc : List RollingMessage),
      entries.foldlM (collectStep env fs cutoff) (groupedByDate acc) =
        ((entries.mapM fun e => entryMessages env fs cutoff e.2).map List.flatten).map
          fun messages => groupedByDate (acc ++ messages)
  | [], acc => by
    simp only [List.foldlM_nil, List.mapM_nil, Option.pure_def, Option.map_some', List.flatten_nil,
      List.append_nil]
  | e :: rest, acc => by
    rw [List.foldlM_cons, List.mapM_cons]
    cases h : entryMessages env fs cutoff e.2 with
    | none => simp [collectStep, h]
    | some messages =>
      simp only [collectStep, h, Option.bind_eq_bind, Option.some_bind, Option.pure_def,
        foldl_pushToBucket, foldlM_collectStep env fs cutoff rest (acc ++ messages)]
      cases rest.mapM fun e => entryMessages env fs cutoff e.2 <;>
        simp [List.append_assoc]

/-! ## What is collected -/

/-- `toISOString()`: `isoDate`, then the time of day to the millisecond. -/
def isoString (t : TimeValue) : String :=
  let ms := (t.ms % 86400000).toNat
  isoDate t ++ "T" ++ padStart 2 (toString (ms / 3600000)) ++ ":" ++
    padStart 2 (toString (ms / 60000 % 60)) ++ ":" ++ padStart 2 (toString (ms / 1000 % 60)) ++
    "." ++ padStart 3 (toString (ms % 1000)) ++ "Z"

/-- One bullet: the text cut at 200 code units, each run of newlines made a space, trimmed. -/
def rollingBullet (msg : RollingMessage) : String :=
  let preview := if 200 < utf16Length msg.text then slice msg.text 200 ++ "..." else msg.text
  let oneLine := trim ⟨replaceRuns (· == '\n') ' ' false preview.data⟩
  "- **" ++ msg.role ++ "**: " ++ oneLine

/-- The lines of one date: its heading, up to 50 bullets, and how many more there were. -/
def dateSection (date : String) (messages : List RollingMessage) : List String :=
  ["## " ++ date, ""] ++ (messages.take 50).map rollingBullet ++
    (if 50 < messages.length then
      ["- *(" ++ toString (messages.length - 50) ++ " more messages omitted)*"] else []) ++ [""]

/-- `[...byDate.keys()].sort((a, b) => b.localeCompare(a))`: `sort` is stable, so with a
consistent comparator it orders as `List.mergeSort`. -/
def sortDates (localeCompare : String → String → Int) (dates : List String) : List String :=
  dates.mergeSort fun a b => decide (localeCompare b a ≤ 0)

def rollingHeader (now : TimeValue) : List String :=
  ["# Rolling 7-Day Context (auto-generated)", "Last updated: " ++ isoString now, ""]

/-- The dates' sections, the most recent first, or the note that there were none. -/
def rollingSections (localeCompare : String → String → Int)
    (byDate : List (String × List RollingMessage)) : List String :=
  match sortDates localeCompare (byDate.map (·.1)) with
  | [] => ["No conversations in the last 7 days.", ""]
  | dates => dates.flatMap fun date => dateSection date ((byDate.lookup date).getD [])

def buildRollingMarkdown (localeCompare : String → String → Int)
    (byDate : List (String × List RollingMessage)) (now : TimeValue) : String :=
  "\n".intercalate (rollingHeader now ++ rollingSections localeCompare byDate)

/-! ## One line per part -/

section printed

variable {c : Char}

theorem not_mem_append {a b : String} (ha : c ∉ a.data) (hb : c ∉ b.data) : c ∉ (a ++ b).data := by
  rw [String.data_append, List.mem_append, not_or]
  exact ⟨ha, hb⟩

theorem not_mem_toString (hc : c.isDigit = false) (n : Nat) : c ∉ (toString n).data := fun h =>
  absurd ((Json.toDigits_spec n).1 _ h) (by rw [hc]; decide)

theorem not_mem_padStart (h0 : c ≠ '0') {s : String} (w : Nat) (h : c ∉ s.data) :
    c ∉ (padStart w s).data := by
  simp only [padStart, List.mem_append, List.mem_replicate, not_or]
  exact ⟨fun h => h0 h.2, h⟩

theorem not_mem_isoDate (hc : c.isDigit = false) (hdash : c ≠ '-') (hplus : c ≠ '+')
    (t : TimeValue) : c ∉ (isoDate t).data := by
  have hpad := fun w n => not_mem_padStart (fun h => by rw [h] at hc; cases hc) w (not_mem_toString hc n)
  have hd : c ∉ "-".data := fun h => hdash (List.mem_singleton.mp h)
  rcases h : civilFromDays (t.ms / 86400000) with ⟨y, m, d⟩
  simp only [isoDate, h]
  refine not_mem_append (not_mem_append (not_mem_append (not_mem_append ?_ hd) (hpad _ _)) hd)
    (hpad _ _)
  split
  · exact hpad _ _
  · refine not_mem_append ?_ (hpad _ _)
    split
    · exact hd
    · exact fun h => hplus (List.mem_singleton.mp h)

end printed

section lines

variable {byDate : List (String × List RollingMessage)}
  (hkeys : ∀ p ∈ byDate, '\n' ∉ p.1.data) (hroles : ∀ p ∈ byDate, ∀ m ∈ p.2, '\n' ∉ m.role.data)

end lines

/-! ## The hook -/

variable {Cfg : Type}

def rollingTriggered (event : RollingHookEvent Cfg) : Bool :=
  (event.type == "command" && event.action == "new") ||
    (event.type == "session" && event.action == "end")

def rollingWorkspaceDir (env : RollingMemoryHookEnv Cfg) (event : RollingHookEvent Cfg) : String :=
  match event.cfg with
  | some cfg => env.resolveAgentWorkspaceDir cfg (env.resolveAgentIdFromSessionKey event.sessionKey)
  | none => join [env.homedir, ".openclaw", "workspace"]

def rollingMemoryDir (env : RollingMemoryHookEnv Cfg) (event : RollingHookEvent Cfg) : String :=
  join [rollingWorkspaceDir env event, "memory"]

def rollingFile (env : RollingMemoryHookEnv Cfg) (event : RollingHookEvent Cfg) : String :=
  join [rollingMemoryDir env event, "rolling-7d.md"]

/-- The hook config's `days` when it is a positive number, else `DEFAULT_ROLLING_DAYS`. -/
def rollingDays (hookConfig : Option JsonValue) : ℚ :=
  match hookConfig.bind (·.field "days") with
  | some (.number n) => if 0 < n then n else defaultRollingDays
  | _ => defaultRollingDays

/-- The context's path when it is a string, else `sessions.json` of the main agent in the
state directory. -/
def resolveStorePath (env : RollingMemoryHookEnv Cfg) (storePath : Option String) : String :=
  match storePath with
  | some storePath => storePath
  | none =>
    let stateDir := (env.stateDirVar.filter (· != "")).getD (join [env.homedir, ".openclaw"])
    join [stateDir, "agents", "main", "sessions", "sessions.json"]

/-- The handler on one event; every error it catches leaves the file system as the failing
call left it. -/
def rollingMemoryHandler (env : RollingMemoryHookEnv Cfg) (fs : FileSystem)
    (event : RollingHookEvent Cfg) : FileSystem :=
  if !rollingTriggered event then fs else
  let (fs, made) := mkdirRecursive fs (rollingMemoryDir env event)
  if !made then fs else
  let days := rollingDays (env.resolveHookConfig event.cfg "rolling-memory")
  let storePath := resolveStorePath env event.storePath
  if storePath = "" then fs else
  match collectRecentMessages env.toRollingCollectorEnv fs storePath days event.timestamp with
  | none => fs
  | some byDate =>
    (writeFile fs (rollingFile env event)
      (buildRollingMarkdown env.localeCompare byDate event.timestamp)).getD fs

/-- The handler on each event in turn. -/
def rollingMemoryRun (env : RollingMemoryHookEnv Cfg) (fs : FileSystem)
    (events : List (RollingHookEvent Cfg)) : FileSystem :=
  events.foldl (rollingMemoryHandler env) fs

/-! ## What one event does -/

theorem rollingMemoryHandler_cases (env : RollingMemoryHookEnv Cfg) (fs : FileSystem)
    (event : RollingHookEvent Cfg) :
    rollingMemoryHandler env fs event = fs ∨
      rollingMemoryHandler env fs event = (mkdirRecursive fs (rollingMemoryDir env event)).1 ∨
      ∃ content, writeFile (mkdirRecursive fs (rollingMemoryDir env event)).1 (rollingFile env event)
        content = some (rollingMemoryHandler env fs event) := by
  unfold rollingMemoryHandler
  rcases mkdirRecursive fs (rollingMemoryDir env event) with ⟨fs', made⟩
  dsimp only
  split
  · exact .inl rfl
  split
  · exact .inr (.inl rfl)
  split
  · exact .inr (.inl rfl)
  split
  · exact .inr (.inl rfl)
  · cases hw : writeFile fs' (rollingFile env event) _ with
    | none => exact .inr (.inl rfl)
    | some fs'' => exact .inr (.inr ⟨_, hw⟩)

theorem rollingMemoryHandler_frame {env : RollingMemoryHookEnv Cfg} {fs : FileSystem}
    {event : RollingHookEvent Cfg} {p : String} (hp : rollingMemoryHandler env fs event p ≠ fs p) :
    p ∈ ancestorPaths (rollingMemoryDir env event) ∨ p = normalize (rollingFile env event) := by
  by_contra hout
  rw [not_or] at hout
  have hmk : (mkdirRecursive fs (rollingMemoryDir env event)).1 p = fs p := by
    unfold mkdirRecursive; exact mkdirAlong_frame _ fs hout.1
  rcases rollingMemoryHandler_cases env fs event with hrun | hrun | ⟨_, hw⟩
  · rw [hrun] at hp; exact hp rfl
  · rw [hrun] at hp; exact hp hmk
  · exact hp ((writeFile_frame hw hout.2).trans hmk)

/-- **The `Map` loop is a group-by.** The collector returns, for each date in the order of
its first message, exactly the messages of that date among those of the sessions in the
window, in store and file order; it throws only where a session's date does. -/
theorem collectRecentMessages_groups (env : RollingCollectorEnv) (fs : FileSystem)
    (storePath : String) (days : ℚ) (now : TimeValue) :
    collectRecentMessages env fs storePath days now =
      (recentMessages env fs storePath days now).map groupedByDate :=
  foldlM_collectStep env fs (rollingCutoff days now) (loadSessionStoreSimple fs storePath) []

/-- A machine where every date is 2026-02-11, a string compares with a number as `NaN` does,
and the agent's workspace is `/w`. -/
def sampleRollingEnv : RollingMemoryHookEnv Unit where
  newDate _ := some ⟨1770800400000, by decide⟩
  lessThan _ _ := false
  homedir := "/home/u"
  stateDirVar := none
  resolveAgentIdFromSessionKey _ := "main"
  resolveAgentWorkspaceDir _ _ := "/w"
  resolveHookConfig _ _ := none
  localeCompare _ _ := 0

/-- A store with one session whose `updatedAt` is a date string, never below the cutoff, and
whose transcript holds one user message. -/
def sampleSessionDisk : FileSystem := fun p =>
  if p = "/s.json" then
    some (.file "\x7b\"s\":\x7b\"updatedAt\":\"2026-02-11T09:00:00.000Z\",\"sessionFile\":\"/t.jsonl\"\x7d\x7d")
  else if p = "/t.jsonl" then
    some (.file "\x7b\"type\":\"message\",\"message\":\x7b\"role\":\"user\",\"content\":\"hello\"\x7d\x7d")
  else none

def closeSampleSession : RollingHookEvent Unit :=
  ⟨"command", "new", "agent:main:main", ⟨1770800400000, by decide⟩, some (), some "/s.json"⟩

end QverisBot.Hooks
