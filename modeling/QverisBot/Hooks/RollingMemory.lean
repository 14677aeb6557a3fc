import QverisBot.Hooks.SmartMemory.Handler
import Mathlib.Data.List.Basic
import Mathlib.Algebra.BigOperators.Group.List

/-! # The rolling-memory hook's transcript reader

The rolling-memory handler appended to `src/cron/isolated-agent/delivery-target.ts`:
`parseTranscriptMessages` reads at most `MAX_TRANSCRIPT_CHARS` code units of a transcript and
keeps its user and assistant text messages, each with a date. A line is read as the
smart-memory hook reads it (`parseMessageLine`); `new Date(entry.timestamp)` is a parameter.
-/

namespace QverisBot.Hooks

open QverisBot.Js QverisBot.Node

def defaultRollingDays : Nat := 7

/-- `MAX_TRANSCRIPT_CHARS`. -/
def maxTranscriptChars : Nat := 50000

structure RollingMessage where
  role : String
  text : String
  /-- `YYYY-MM-DD`, from the entry's timestamp or the session's `updatedAt`. -/
  date : String
  deriving DecidableEq, Repr

structure RollingMemoryEnv where
  /-- `new Date(value)`'s time value, unless it is `NaN`. -/
  newDate : JsonValue → Option TimeValue

/-! ## One line -/

/-- The entry's timestamp when it is truthy and a valid date, else the session's date. -/
def messageDate (env : RollingMemoryEnv) (fallbackDate : String) (entry : JsonValue) : String :=
  match entry.field "timestamp" with
  | some ts => if ts.truthy then ((env.newDate ts).map isoDate).getD fallbackDate else fallbackDate
  | none => fallbackDate

/-- One turn of the loop: the smart-memory reading of the line, with the message's date. -/
def parseTranscriptLine (env : RollingMemoryEnv) (fallbackDate line : String) :
    Option RollingMessage := do
  let msg ← parseMessageLine line
  let entry ← Json.parse line
  pure ⟨msg.role, msg.text, messageDate env fallbackDate entry⟩

/-- `content.trim().split("\n")`. -/
def transcriptLines (content : String) : List String :=
  ((trim content).data.splitOn '\n').map String.mk

/-! ## The transcript -/

def parseTranscriptMessages (env : RollingMemoryEnv) (fs : FileSystem) (filePath fallbackDate : String) :
    List RollingMessage :=
  match readFile fs filePath with
  | none => []
  | some raw =>
    let content := if maxTranscriptChars < utf16Length raw then slice raw maxTranscriptChars else raw
    (transcriptLines content).filterMap (parseTranscriptLine env fallbackDate)

/-- Every user or assistant text message of the whole transcript, in file order. -/
def allTranscriptMessages (env : RollingMemoryEnv) (raw fallbackDate : String) :
    List RollingMessage :=
  (transcriptLines raw).filterMap (parseTranscriptLine env fallbackDate)

/-! ## A transcript past the cap -/

theorem parseValue_x (fuel : Nat) (rest : List Char) :
    Json.parseValue (fuel + 1) ('x' :: rest) = none := by
  have hws : Json.skipWs ('x' :: rest) = 'x' :: rest := List.dropWhile_cons_of_neg (by decide)
  rw [Json.parseValue, hws]
  rfl

theorem parse_x (rest : List Char) : Json.parse ⟨'x' :: rest⟩ = none := by
  have hfuel : 2 * (⟨'x' :: rest⟩ : String).length + 2 = (2 * (rest.length + 1) + 1) + 1 := rfl
  rw [Json.parse, hfuel, parseValue_x]

theorem parseTranscriptLine_run (env : RollingMemoryEnv) (fallbackDate : String) {k : Nat}
    (hk : 0 < k) : parseTranscriptLine env fallbackDate ⟨List.replicate k 'x'⟩ = none := by
  obtain ⟨j, rfl⟩ := Nat.exists_eq_add_one_of_ne_zero (Nat.pos_iff_ne_zero.mp hk)
  rw [parseTranscriptLine, parseMessageLine, List.replicate_succ, parse_x]
  rfl

theorem parseTranscriptLine_untimed (env : RollingMemoryEnv) (fallbackDate line : String)
    (msg : ParsedMessage) (hmsg : parseMessageLine line = some msg)
    (huntimed : (Json.parse line).map (·.field "timestamp") = some none) :
    parseTranscriptLine env fallbackDate line = some ⟨msg.role, msg.text, fallbackDate⟩ := by
  cases hp : Json.parse line with
  | none => simp [hp] at huntimed
  | some entry =>
    simp only [hp, Option.map_some', Option.some.injEq] at huntimed
    simp [parseTranscriptLine, hmsg, hp, messageDate, huntimed]

/-- Two lines around a line of `n` characters `x`. -/
def aroundRun (a b : String) (n : Nat) : String :=
  ⟨a.data ++ '\n' :: List.replicate n 'x' ++ '\n' :: b.data⟩

theorem utf16Units_x : utf16Units 'x' = 1 := by decide

theorem utf16Length_aroundRun (a b : String) (n : Nat) :
    utf16Length (aroundRun a b n) = utf16Length a + n + 2 + utf16Length b := by
  simp [utf16Length, aroundRun, utf16Units_x, show utf16Units '\n' = 1 by decide]
  omega

section run

variable {a b : String} {first last : Char} (ha : '\n' ∉ a.data)
  (hhead : a.data.head? = some first) (hfirst : isWhitespace first = false)

include ha hhead hfirst in
theorem aroundRun_lines (hb : '\n' ∉ b.data) (hlast : b.data.getLast? = some last)
    (hlast' : isWhitespace last = false) (n : Nat) :
    transcriptLines (aroundRun a b n) = [a, ⟨List.replicate n 'x'⟩, b] := by
  have hsplit : (aroundRun a b n).data = ['\n'].intercalate [a.data, List.replicate n 'x', b.data] := by
    simp [aroundRun, List.intercalate]
  have hends : trim (aroundRun a b n) = aroundRun a b n := by
    refine trim_of_ends ?_ ?_
    · simpa [aroundRun, hhead] using hfirst
    · simpa [aroundRun, List.getLast?_cons, hlast] using hlast'
  rw [transcriptLines, hends, hsplit, List.splitOn_intercalate]
  · rfl
  · simp only [List.mem_cons, List.not_mem_nil, or_false, forall_eq_or_imp, forall_eq]
    exact ⟨ha, by simp, hb⟩
  · simp

include ha hhead hfirst in
theorem cut_lines {k : Nat} (hk : 0 < k) :
    transcriptLines ⟨a.data ++ '\n' :: List.replicate k 'x'⟩ = [a, ⟨List.replicate k 'x'⟩] := by
  have hsplit : a.data ++ '\n' :: List.replicate k 'x' =
      ['\n'].intercalate [a.data, List.replicate k 'x'] := by
    simp [List.intercalate]
  have hends : trim ⟨a.data ++ '\n' :: List.replicate k 'x'⟩ =
      ⟨a.data ++ '\n' :: List.replicate k 'x'⟩ := by
    refine trim_of_ends ?_ ?_
    · simpa [hhead] using hfirst
    · simp [List.getLast?_cons, List.getLast?_replicate, Nat.pos_iff_ne_zero.mp hk]
      decide
  rw [transcriptLines, hends, hsplit, List.splitOn_intercalate]
  · rfl
  · simp only [List.mem_cons, List.not_mem_nil, or_false, forall_eq_or_imp, forall_eq]
    exact ⟨ha, by simp⟩
  · simp

end run

theorem slice_aroundRun (a b : String) (n m : Nat) (hm : utf16Length a < m)
    (hn : m ≤ utf16Length a + 1 + n) :
    slice (aroundRun a b n) m = ⟨a.data ++ '\n' :: List.replicate (m - utf16Length a - 1) 'x'⟩ := by
  unfold utf16Length at hm hn ⊢
  simp only [Js.slice, aroundRun, List.append_assoc]
  rw [sliceChars_append _ (Nat.le_of_lt hm)]
  simp only [List.cons_append, sliceChars, show utf16Units '\n' = 1 by decide, List.append_eq]
  rw [if_pos (by omega), sliceChars_replicate utf16Units_x (by omega), Nat.sub_sub]

/-- An early message of a long session. -/
def firstLine : String :=
  "\x7b\"type\":\"message\",\"message\":\x7b\"role\":\"user\",\"content\":\"first\"\x7d\x7d"

/-- A later message of the same session. -/
def lastLine : String :=
  "\x7b\"type\":\"message\",\"message\":\x7b\"role\":\"user\",\"content\":\"second\"\x7d\x7d"

/-- The two messages around a line of 50 000 characters that is not JSON. -/
def longTranscript : String := aroundRun firstLine lastLine 50000

theorem firstLine_facts : '\n' ∉ firstLine.data ∧ firstLine.data.head? = some '\x7b' ∧
    isWhitespace '\x7b' = false ∧ utf16Length firstLine = 62 := by decide

theorem lastLine_facts : '\n' ∉ lastLine.data ∧ lastLine.data.getLast? = some '\x7d' ∧
    isWhitespace '\x7d' = false := by decide

/-! ## The theorems -/

/-- **The cap keeps the oldest messages.** `raw.slice(0, MAX_TRANSCRIPT_CHARS)` keeps the start
of a long transcript: a session whose later message lies past 50 000 code units is read
without it, though its earlier message is read, and the messages read are not a suffix of
the session's messages. -/
theorem parseTranscriptMessages_drops_newer (env : RollingMemoryEnv) :
    let fs : FileSystem := fun p => if p = "/s.jsonl" then some (.file longTranscript) else none
    parseTranscriptMessages env fs "/s.jsonl" "2026-02-11" = [⟨"user", "first", "2026-02-11"⟩] ∧
      allTranscriptMessages env longTranscript "2026-02-11" =
        [⟨"user", "first", "2026-02-11"⟩, ⟨"user", "second", "2026-02-11"⟩] ∧
      ¬ List.IsSuffix [(⟨"user", "first", "2026-02-11"⟩ : RollingMessage)]
        [⟨"user", "first", "2026-02-11"⟩, ⟨"user", "second", "2026-02-11"⟩] := by
  have hfirst : parseTranscriptLine env "2026-02-11" firstLine = some ⟨"user", "first", "2026-02-11"⟩ :=
    parseTranscriptLine_untimed _ _ _ ⟨"user", "first"⟩ (by decide) rfl
  have hlast : parseTranscriptLine env "2026-02-11" lastLine = some ⟨"user", "second", "2026-02-11"⟩ :=
    parseTranscriptLine_untimed _ _ _ ⟨"user", "second"⟩ (by decide) rfl
  obtain ⟨ha, hhead, hfirst', hlen⟩ := firstLine_facts
  obtain ⟨hb, hlast', hlast''⟩ := lastLine_facts
  refine ⟨?_, ?_, by decide⟩
  · have hread : readFile (fun p => if p = "/s.jsonl" then some (.file longTranscript) else none)
        "/s.jsonl" = some longTranscript := by
      simp [readFile, show normalize "/s.jsonl" = "/s.jsonl" by decide]
    have hlong : maxTranscriptChars < utf16Length longTranscript := by
      rw [longTranscript, utf16Length_aroundRun, hlen, maxTranscriptChars]
      omega
    have hslice : slice longTranscript maxTranscriptChars =
        ⟨firstLine.data ++ '\n' :: List.replicate 49937 'x'⟩ := by
      rw [longTranscript, slice_aroundRun firstLine lastLine 50000 maxTranscriptChars
        (by rw [hlen, maxTranscriptChars]; omega) (by rw [hlen, maxTranscriptChars]; omega), hlen]
      rfl
    simp only [parseTranscriptMessages, hread, if_pos hlong, hslice]
    have hrun : parseTranscriptLine env "2026-02-11" ⟨List.replicate 49937 'x'⟩ = none :=
      parseTranscriptLine_run env _ (by decide)
    rw [cut_lines ha hhead hfirst' (by decide), List.filterMap_cons, hfirst, List.filterMap_cons,
      hrun, List.filterMap_nil]
  · rw [allTranscriptMessages, longTranscript, aroundRun_lines ha hhead hfirst' hb hlast' hlast'' 50000]
    have hrun : parseTranscriptLine env "2026-02-11" ⟨List.replicate 50000 'x'⟩ = none :=
      parseTranscriptLine_run env _ (by decide)
    rw [List.filterMap_cons, hfirst, List.filterMap_cons, hrun, List.filterMap_cons, hlast,
      List.filterMap_nil]

end QverisBot.Hooks
