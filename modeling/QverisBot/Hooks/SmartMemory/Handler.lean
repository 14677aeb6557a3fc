import QverisBot.Json
import QverisBot.Node.Path
import QverisBot.Hooks.SmartMemory.Classify

/-! # The smart-memory hook as a step on the file system

`smartMemoryHandler` of `src/hooks/bundled/smart-memory/handler.ts`, run on each event: it
reads the session's transcript, classifies it, and writes
`memory/important/<date>-<slug>.md` in the agent's workspace. The file system maps normalized
paths to entries; every error the handler catches leaves it as the failing call left it.
-/

namespace QverisBot.Hooks

open QverisBot.Js QverisBot.Node

/-! ## The file system -/

inductive FsEntry
  | file (content : String)
  | dir
  deriving DecidableEq, Repr

/-- The entry at each normalized path. -/
abbrev FileSystem := String → Option FsEntry

/-- `fs.readFile(p, "utf-8")`, `none` where it throws. -/
def readFile (fs : FileSystem) (p : String) : Option String :=
  match fs (normalize p) with
  | some (.file content) => some content
  | _ => none

/-- The directories on the way to `p`, outermost first, `p` itself last. -/
def ancestorPaths (p : String) : List String :=
  let (abs, segs) := location p
  (List.range segs.length).map fun i =>
    ⟨(if abs then ['/'] else []) ++ ['/'].intercalate (segs.take (i + 1))⟩

/-- `fs.mkdir(p, { recursive: true })` from the outermost directory in: each missing one is
made, and a file on the way stops it with an error. -/
def mkdirAlong (fs : FileSystem) : List String → FileSystem × Bool
  | [] => (fs, true)
  | q :: qs =>
    match fs q with
    | some (.file _) => (fs, false)
    | some .dir => mkdirAlong fs qs
    | none => mkdirAlong (Function.update fs q (some .dir)) qs

def mkdirRecursive (fs : FileSystem) (p : String) : FileSystem × Bool :=
  mkdirAlong fs (ancestorPaths p)

/-- The directory holding `p`, `none` at the top. -/
def parentPath? (p : String) : Option String :=
  (ancestorPaths p).dropLast.getLast?

/-- Where `fs.writeFile` succeeds: not on a directory, and only inside an existing one. -/
def canWriteAt (fs : FileSystem) (key : String) : Bool :=
  fs key != some .dir &&
    match parentPath? key with
    | some parent => fs parent == some .dir
    | none => true

/-- `fs.writeFile(p, content)`, `none` where it throws. -/
def writeFile (fs : FileSystem) (p content : String) : Option FileSystem :=
  if canWriteAt fs (normalize p) then some (Function.update fs (normalize p) (some (.file content)))
  else none

/-! ## Dates -/

/-- A `Date`'s time value: milliseconds since the epoch, within the ±8.64e15 a `Date` holds. -/
structure TimeValue where
  ms : Int
  range : ms.natAbs ≤ 8640000000000000

/-- Year, month and day of a count of days since 1970-01-01, proleptic Gregorian. -/
def civilFromDays (days : Int) : Int × Nat × Nat :=
  let z := days + 719468
  let era := z / 146097
  let doe := z - era * 146097
  let yoe := (doe - doe / 1460 + doe / 36524 - doe / 146096) / 365
  let doy := doe - (365 * yoe + yoe / 4 - yoe / 100)
  let mp := (5 * doy + 2) / 153
  let d := doy - (153 * mp + 2) / 5 + 1
  let m := if mp < 10 then mp + 3 else mp - 9
  (if m ≤ 2 then yoe + era * 400 + 1 else yoe + era * 400, m.toNat, d.toNat)

def padStart (width : Nat) (s : String) : String :=
  ⟨List.replicate (width - s.length) '0' ++ s.data⟩

/-- `new Date(t).toISOString().split("T")[0]`: `YYYY-MM-DD`, with a sign and six digits for a
year outside 0 to 9999. -/
def isoDate (t : TimeValue) : String :=
  let (y, m, d) := civilFromDays (t.ms / 86400000)
  let year := if 0 ≤ y ∧ y ≤ 9999 then padStart 4 (toString y.toNat)
    else (if y < 0 then "-" else "+") ++ padStart 6 (toString y.natAbs)
  year ++ "-" ++ padStart 2 (toString m) ++ "-" ++ padStart 2 (toString d)

/-! ## The transcript -/

/-- `msg.content.find((c) => c.type === "text")`: reading `type` of a `null` part throws. -/
def findTextPart : List JsonValue → Option (Option JsonValue)
  | [] => some none
  | .null :: _ => none
  | c :: rest => if JsonValue.string? (c.field "type") = some "text" then some (some c) else findTextPart rest

/-- One line of the transcript as the loop of `getRecentSessionMessages` reads it: `none` for
a line it skips, whether by `continue` or by a caught throw. -/
def parseMessageLine (line : String) : Option ParsedMessage := do
  let entry ← Json.parse line
  guard (JsonValue.string? (entry.field "type") = some "message")
  let msg ← entry.field "message"
  guard msg.truthy
  let role ← JsonValue.string? (msg.field "role")
  guard (role = "user" ∨ role = "assistant")
  let text ← match msg.field "content" with
    | some (.array parts) => (findTextPart parts).map fun part => part.bind (·.field "text")
    | content => some content
  match text with
  | some (.string text) => if text = "" ∨ text.data.head? = some '/' then none else some ⟨role, text⟩
  | _ => none

/-- `slice(-n)` for the count `n` the handler passes: `⌊n⌋` from the end, everything for 0. -/
def sliceLast {α : Type} (count : Nat) (xs : List α) : List α :=
  if count = 0 then xs else xs.drop (xs.length - count)

/-- The messages of a transcript's text, in file order. -/
def transcriptMessages (content : String) : List ParsedMessage :=
  (((trim content).data.splitOn '\n').map String.mk).filterMap parseMessageLine

def getRecentSessionMessages (fs : FileSystem) (sessionFilePath : String) (messageCount : Nat) :
    List ParsedMessage :=
  match readFile fs sessionFilePath with
  | none => []
  | some content => sliceLast messageCount (transcriptMessages content)

def defaultMessageCount : Nat := 30

/-- The hook config's `messages` when it is a positive number, else `DEFAULT_MESSAGE_COUNT`, as
the count `slice` keeps. -/
def messageCount (hookConfig : Option JsonValue) : Nat :=
  match hookConfig.bind (·.field "messages") with
  | some (.number n) => if 0 < n then n.floor.toNat else defaultMessageCount
  | _ => defaultMessageCount

/-! ## The handler -/

structure SessionEntry where
  sessionId : Option String
  sessionFile : Option String

structure HookContext (Cfg : Type) where
  cfg : Option Cfg
  previousSessionEntry : Option SessionEntry
  sessionEntry : Option SessionEntry

structure HookEvent (Cfg : Type) where
  type : String
  action : String
  sessionKey : String
  timestamp : TimeValue
  context : HookContext Cfg

/-- What the handler takes from the rest of the program and the machine. -/
structure SmartMemoryEnv (Cfg : Type) where
  /-- `os.homedir()`. -/
  homedir : String
  resolveAgentIdFromSessionKey : String → String
  resolveAgentWorkspaceDir : Cfg → String → String
  /-- `resolveHookConfig(cfg, name)`. -/
  resolveHookConfig : Option Cfg → String → Option JsonValue
  unicode : UnicodeCategories

variable {Cfg : Type}

def workspaceDirOf (env : SmartMemoryEnv Cfg) (event : HookEvent Cfg) : String :=
  match event.context.cfg with
  | some cfg => env.resolveAgentWorkspaceDir cfg (env.resolveAgentIdFromSessionKey event.sessionKey)
  | none => join [env.homedir, ".openclaw", "workspace"]

/-- `previousSessionEntry || sessionEntry || {}`. -/
def sessionEntryOf (event : HookEvent Cfg) : SessionEntry :=
  (event.context.previousSessionEntry.orElse fun _ => event.context.sessionEntry).getD ⟨none, none⟩

/-- Where the handler writes a conversation of `date` named by `slug`. -/
def importantFilePath (workspaceDir date slug : String) : String :=
  join [join [workspaceDir, "memory", "important"], date ++ "-" ++ slug ++ ".md"]

/-- The handler once the session's messages are read and classified non-routine. -/
def saveImportant (env : SmartMemoryEnv Cfg) (fs : FileSystem) (event : HookEvent Cfg)
    (sessionId : String) (messages : List ParsedMessage) (c : Classification) : FileSystem :=
  let dateStr := isoDate event.timestamp
  let slug := generateSlug env.unicode messages
  let importantDir := join [workspaceDirOf env event, "memory", "important"]
  let (fs, made) := mkdirRecursive fs importantDir
  if !made then fs else
  let markdown := buildImportantMemoryMarkdown env.unicode
    ⟨c.category, c.matchedKeywords, messages, dateStr, event.sessionKey, sessionId⟩
  (writeFile fs (importantFilePath (workspaceDirOf env event) dateStr slug) markdown).getD fs

def smartMemoryHandler (env : SmartMemoryEnv Cfg) (fs : FileSystem) (event : HookEvent Cfg) :
    FileSystem :=
  if event.type != "command" || event.action != "new" then fs else
  let entry := sessionEntryOf event
  let sessionId := (entry.sessionId.filter (· != "")).getD "unknown"
  match entry.sessionFile.filter (· != "") with
  | none => fs
  | some sessionFile =>
    let messages := getRecentSessionMessages fs sessionFile
      (messageCount (env.resolveHookConfig event.context.cfg "smart-memory"))
    if messages = [] then fs else
    let c := classifyConversation env.unicode.cases ("\n".intercalate (messages.map (·.text)))
    if c.category = .routine then fs else saveImportant env fs event sessionId messages c

/-- The handler on each event in turn. -/
def smartMemoryRun (env : SmartMemoryEnv Cfg) (fs : FileSystem) (events : List (HookEvent Cfg)) :
    FileSystem :=
  events.foldl (smartMemoryHandler env) fs

/-! ## What one run does -/

/-- **The handler's spec.** On a `/new` event whose session file yields the same non-empty
messages for every count, and which are not routine, the handler saves them. -/
theorem smartMemoryHandler_saves {env : SmartMemoryEnv Cfg} {fs : FileSystem}
    {event : HookEvent Cfg} {sessionFile : String} {msgs : List ParsedMessage} {c : Classification}
    (hnew : event.type = "command" ∧ event.action = "new")
    (hfile : (sessionEntryOf event).sessionFile.filter (· != "") = some sessionFile)
    (hmsgs : ∀ n, getRecentSessionMessages fs sessionFile n = msgs) (hne : msgs ≠ [])
    (hc : classifyConversation env.unicode.cases ("\n".intercalate (msgs.map (·.text))) = c)
    (hkeep : c.category ≠ .routine) :
    smartMemoryHandler env fs event =
      saveImportant env fs event (((sessionEntryOf event).sessionId.filter (· != "")).getD "unknown")
        msgs c := by
  simp only [smartMemoryHandler, hnew, hfile, hmsgs, hne, hc, hkeep, bne_self_eq_false,
    Bool.or_false, Bool.false_eq_true, if_false]

theorem sliceLast_singleton {α : Type} (count : Nat) (x : α) : sliceLast count [x] = [x] := by
  unfold sliceLast
  split
  · rfl
  · rw [List.length_singleton, Nat.sub_eq_zero_of_le (Nat.one_le_iff_ne_zero.mpr ‹_›)]
    rfl

theorem getRecentSessionMessages_single {fs : FileSystem} {sessionFile : String}
    {msg : ParsedMessage} (hread : (readFile fs sessionFile).map transcriptMessages = some [msg])
    (count : Nat) : getRecentSessionMessages fs sessionFile count = [msg] := by
  unfold getRecentSessionMessages
  split
  · next h => simp [h] at hread
  · next content h =>
    simp only [h, Option.map_some', Option.some.injEq] at hread
    rw [hread, sliceLast_singleton]

theorem writeFile_eq_some {fs : FileSystem} {p content : String}
    (h : canWriteAt fs (normalize p) = true) :
    writeFile fs p content = some (Function.update fs (normalize p) (some (.file content))) := by
  simp [writeFile, h]

/-- **What a save writes.** Once the directory is made, a path where a file can be written
receives the markdown. -/
theorem saveImportant_eq_update {env : SmartMemoryEnv Cfg} {fs : FileSystem}
    {event : HookEvent Cfg} {sessionId : String} {msgs : List ParsedMessage} {c : Classification}
    (hmk : (mkdirRecursive fs (join [workspaceDirOf env event, "memory", "important"])).2 = true)
    (hwrite : canWriteAt (mkdirRecursive fs (join [workspaceDirOf env event, "memory", "important"])).1
      (normalize (importantFilePath (workspaceDirOf env event) (isoDate event.timestamp)
        (generateSlug env.unicode msgs))) = true) :
    saveImportant env fs event sessionId msgs c =
      Function.update (mkdirRecursive fs (join [workspaceDirOf env event, "memory", "important"])).1
        (normalize (importantFilePath (workspaceDirOf env event) (isoDate event.timestamp)
          (generateSlug env.unicode msgs)))
        (some (.file (buildImportantMemoryMarkdown env.unicode
          ⟨c.category, c.matchedKeywords, msgs, isoDate event.timestamp, event.sessionKey, sessionId⟩))) := by
  simp only [saveImportant, hmk, Bool.not_true, Bool.false_eq_true, if_false,
    writeFile_eq_some hwrite, Option.getD_some]

/-! ## Nothing is deleted -/

theorem smartMemoryHandler_cases (env : SmartMemoryEnv Cfg) (fs : FileSystem) (event : HookEvent Cfg) :
    smartMemoryHandler env fs event = fs ∨
      ∃ sessionId msgs c, smartMemoryHandler env fs event = saveImportant env fs event sessionId msgs c := by
  unfold smartMemoryHandler
  split
  · exact .inl rfl
  · dsimp only
    split
    · exact .inl rfl
    · split
      · exact .inl rfl
      · split
        · exact .inl rfl
        · exact .inr ⟨_, _, _, rfl⟩

theorem mkdirAlong_frame {p : String} :
    ∀ (qs : List String) (fs : FileSystem), p ∉ qs → (mkdirAlong fs qs).1 p = fs p
  | [], _, _ => rfl
  | q :: qs, fs, hp => by
    have hq : p ≠ q := fun h => hp (h ▸ List.mem_cons_self _ _)
    have hrest : p ∉ qs := fun h => hp (List.mem_cons_of_mem _ h)
    unfold mkdirAlong
    split
    · rfl
    · exact mkdirAlong_frame qs fs hrest
    · rw [mkdirAlong_frame qs _ hrest, Function.update_noteq hq]

theorem writeFile_frame {fs fs' : FileSystem} {q content p : String}
    (hw : writeFile fs q content = some fs') (hp : p ≠ normalize q) : fs' p = fs p := by
  unfold writeFile at hw
  split at hw
  · cases hw
    exact Function.update_noteq hp _ _
  · cases hw

/-- **The hook writes only its own directory.** A run changes nothing but the directories on
the way to `memory/important` of the agent's workspace and one file in it, named by the
event's date and a generated slug. -/
theorem smartMemoryHandler_frame {env : SmartMemoryEnv Cfg} {fs : FileSystem}
    {event : HookEvent Cfg} {p : String} (hp : smartMemoryHandler env fs event p ≠ fs p) :
    p ∈ ancestorPaths (join [workspaceDirOf env event, "memory", "important"]) ∨
      ∃ messages, p = normalize (importantFilePath (workspaceDirOf env event)
        (isoDate event.timestamp) (generateSlug env.unicode messages)) := by
  by_contra hout
  simp only [not_or, not_exists] at hout
  rcases smartMemoryHandler_cases env fs event with hrun | ⟨sessionId, msgs, c, hrun⟩ <;>
    rw [hrun] at hp
  · exact hp rfl
  · have hmk := mkdirAlong_frame (ancestorPaths (join [workspaceDirOf env event, "memory", "important"]))
      fs hout.1
    simp only [saveImportant, mkdirRecursive] at hp
    split at hp
    · exact hp hmk
    · cases hw : writeFile _ _ _ <;> rw [hw] at hp
      · exact hp hmk
      · exact hp ((writeFile_frame hw (hout.2 _)).trans hmk)

theorem isAlpha_of_whitespace {c : Char} (h : isWhitespace c = true) : c.isAlpha = false := by
  have hall : ∀ n ∈ whitespaceCodePoints, (Char.ofNat n).isAlpha = false := by decide
  have := hall _ (by simpa [isWhitespace] using h)
  rwa [Char.ofNat_toNat] at this

theorem isDigit_of_whitespace {c : Char} (h : isWhitespace c = true) : c.isDigit = false := by
  have hall : ∀ n ∈ whitespaceCodePoints, (Char.ofNat n).isDigit = false := by decide
  have := hall _ (by simpa [isWhitespace] using h)
  rwa [Char.ofNat_toNat] at this

/-- Tables that agree with Unicode on ASCII and put nothing else in `L` or `N`: right for texts
with no other letters or digits. -/
def asciiCategories : UnicodeCategories :=
  ⟨asciiCaseMapping, Char.isAlpha, Char.isDigit, fun _ _ => rfl, fun _ _ => rfl, fun _ => isAlpha_of_whitespace,
    fun _ => isDigit_of_whitespace, by decide, by decide⟩

/-- An agent whose configured workspace is `/w`, with no hook config. -/
def sampleEnv : SmartMemoryEnv Unit :=
  ⟨"/home/u", fun _ => "main", fun _ _ => "/w", fun _ _ => none, asciiCategories⟩

/-- Two transcripts whose one message is a short request to remember. -/
def sessionTranscripts : FileSystem := fun p =>
  if p = "/sessions/a.jsonl" then
    some (.file "\x7b\"type\":\"message\",\"message\":\x7b\"role\":\"user\",\"content\":\"remember\"\x7d\x7d")
  else if p = "/sessions/b.jsonl" then
    some (.file "\x7b\"type\":\"message\",\"message\":\x7b\"role\":\"user\",\"content\":\"save this\"\x7d\x7d")
  else none

/-- `/new` in session `agent:main:main`, closing the session `sessionId`. -/
def commandNew (sessionId sessionFile : String) (timestamp : TimeValue) : HookEvent Unit :=
  ⟨"command", "new", "agent:main:main", timestamp,
    ⟨some (), some ⟨some sessionId, some sessionFile⟩, none⟩⟩

/-- `/new` at 09:00Z on 11 February 2026, closing `session-a`. -/
def closeSessionA : HookEvent Unit := commandNew "session-a" "/sessions/a.jsonl" ⟨1770800400000, by decide⟩

/-- `/new` at 18:00Z the same day, closing `session-b`. -/
def closeSessionB : HookEvent Unit := commandNew "session-b" "/sessions/b.jsonl" ⟨1770832800000, by decide⟩

set_option maxRecDepth 8000 in
/-- **A later session overwrites an earlier one.** Two sessions of 11 February 2026 whose users
wrote nothing longer than ten characters both get the slug `conversation`, so the run for
`session-b` replaces the file the run for `session-a` wrote. -/
theorem smartMemoryRun_overwrites_other_session :
    smartMemoryRun sampleEnv sessionTranscripts
        [closeSessionA] "/w/memory/important/2026-02-11-conversation.md" =
      some (.file ("# Important: remember - conversation\nDate: 2026-02-11\nCategory: remember\n" ++
        "Tags: remember\nSession Key: agent:main:main\nSession ID: session-a\n\n## Conversation\n\n" ++
        "**user**: remember\n")) ∧
    smartMemoryRun sampleEnv sessionTranscripts
        [closeSessionA, closeSessionB] "/w/memory/important/2026-02-11-conversation.md" =
      some (.file ("# Important: remember - conversation\nDate: 2026-02-11\nCategory: remember\n" ++
        "Tags: save this\nSession Key: agent:main:main\nSession ID: session-b\n\n## Conversation\n\n" ++
        "**user**: save this\n")) := by
  have hdir : ∀ e ∈ [closeSessionA, closeSessionB],
      join [workspaceDirOf sampleEnv e, "memory", "important"] = "/w/memory/important" := by decide
  -- Both sessions' files land on one path.
  have hpathA : normalize (importantFilePath (workspaceDirOf sampleEnv closeSessionA)
      (isoDate closeSessionA.timestamp) (generateSlug sampleEnv.unicode [⟨"user", "remember"⟩])) =
      "/w/memory/important/2026-02-11-conversation.md" := by decide
  have hpathB : normalize (importantFilePath (workspaceDirOf sampleEnv closeSessionB)
      (isoDate closeSessionB.timestamp) (generateSlug sampleEnv.unicode [⟨"user", "save this"⟩])) =
      "/w/memory/important/2026-02-11-conversation.md" := by decide
  have runA : smartMemoryHandler sampleEnv sessionTranscripts closeSessionA =
      saveImportant sampleEnv sessionTranscripts closeSessionA "session-a"
        [⟨"user", "remember"⟩] ⟨.remember, ["remember"]⟩ :=
    smartMemoryHandler_saves ⟨rfl, rfl⟩ rfl (getRecentSessionMessages_single (by decide))
      (by decide) (by decide) (by decide)
  rw [saveImportant_eq_update (by rw [hdir _ (by simp)]; decide)
    (by rw [hdir _ (by simp), hpathA]; decide), hdir _ (by simp), hpathA] at runA
  have runB : smartMemoryHandler sampleEnv (smartMemoryHandler sampleEnv sessionTranscripts closeSessionA)
      closeSessionB =
      saveImportant sampleEnv (smartMemoryHandler sampleEnv sessionTranscripts closeSessionA)
        closeSessionB "session-b" [⟨"user", "save this"⟩] ⟨.remember, ["save this"]⟩ :=
    smartMemoryHandler_saves ⟨rfl, rfl⟩ rfl
      (getRecentSessionMessages_single (by rw [runA]; decide)) (by decide) (by decide) (by decide)
  rw [runA, saveImportant_eq_update (by rw [hdir _ (by simp)]; decide)
    (by rw [hdir _ (by simp), hpathB]; decide), hdir _ (by simp), hpathB] at runB
  simp only [smartMemoryRun, List.foldl, runA, runB, Function.update_same]
  constructor <;> decide

end QverisBot.Hooks
