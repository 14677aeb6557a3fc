import QverisBot.Js

/-! # What the smart-memory hook keeps, and under which name

`classifyConversation`, `generateSlug` and `buildImportantMemoryMarkdown` of
`src/hooks/bundled/smart-memory/handler.ts`. The Unicode categories the slug's regular
expression reads are tables given as a parameter, with the facts about them the model relies on.
-/

namespace QverisBot.Hooks

open QverisBot.Js

/-! ## Classification -/

inductive ConversationCategory
  | research
  | paper
  | project
  | decision
  | remember
  | routine
  deriving DecidableEq, Repr

def ConversationCategory.name : ConversationCategory → String
  | .research => "research"
  | .paper => "paper"
  | .project => "project"
  | .decision => "decision"
  | .remember => "remember"
  | .routine => "routine"

structure CategoryRule where
  category : ConversationCategory
  keywords : List String
  minHits : Nat

/-- `CATEGORY_RULES`, in priority order. -/
def categoryRules : List CategoryRule :=
  [⟨.remember, ["remember", "do not forget", "dont forget", "save this", "important", "keep this",
      "memorize", "note this", "record this"], 1⟩,
    ⟨.research, ["experiment", "dataset", "methodology", "hypothesis", "conclusion", "literature",
      "citation", "findings", "analysis", "survey", "literature review", "thesis", "dissertation",
      "研究", "实验", "数据集", "方法论", "假设", "结论", "文献", "综述", "分析"], 2⟩,
    ⟨.paper, ["manuscript", "draft", "revision", "reviewer", "figure", "table", "section",
      "abstract", "submission", "rebuttal", "camera-ready", "稿件", "修改", "审稿", "图表", "投稿"], 2⟩,
    ⟨.project, ["milestone", "step", "progress", "next step", "todo", "deadline", "phase", "sprint",
      "implementation", "deploy", "release", "roadmap", "项目", "进度", "待完成", "下一步", "部署",
      "里程碑"], 2⟩,
    ⟨.decision, ["decision", "choose", "compare", "trade-off", "tradeoff", "architecture", "design",
      "versus", "option a", "option b", "pros and cons", "决策", "选择", "对比", "架构", "方案"], 2⟩]

structure Classification where
  category : ConversationCategory
  matchedKeywords : List String
  deriving DecidableEq, Repr

section
variable (cm : CaseMapping)

/-- The keywords of a rule found in the lower-cased text, in the rule's order. -/
def matchKeywords (lower : String) (keywords : List String) : List String :=
  keywords.filter fun kw => includes lower (cm.toLowerCase kw)

/-- The loop of `classifyConversation`: the first rule with enough hits wins. -/
def classifyByRules (lower : String) : List CategoryRule → Classification
  | [] => ⟨.routine, []⟩
  | rule :: rules =>
    let matched := matchKeywords cm lower rule.keywords
    if rule.minHits ≤ matched.length then ⟨rule.category, matched⟩ else classifyByRules lower rules

def classifyConversation (text : String) : Classification :=
  classifyByRules cm (cm.toLowerCase text) categoryRules

end

/-! ## The slug -/

structure ParsedMessage where
  role : String
  text : String
  deriving DecidableEq, Repr

/-- The tables behind `\p{L}` and `\p{N}`, and the case mapping. On ASCII they are the letters
and the digits, and no whitespace character and not U+FFFD (category So) is in either. -/
structure UnicodeCategories where
  cases : CaseMapping
  isLetter : Char → Bool
  isNumber : Char → Bool
  ascii_letter : ∀ c : Char, c.toNat < 128 → isLetter c = c.isAlpha
  ascii_number : ∀ c : Char, c.toNat < 128 → isNumber c = c.isDigit
  whitespace_not_letter : ∀ c : Char, isWhitespace c = true → isLetter c = false
  whitespace_not_number : ∀ c : Char, isWhitespace c = true → isNumber c = false
  replacement_not_letter : isLetter '\uFFFD' = false
  replacement_not_number : isNumber '\uFFFD' = false

/-- The characters `/[^\p{L}\p{N}\s-]/gu` keeps. -/
def isSlugChar (u : UnicodeCategories) (c : Char) : Bool :=
  u.isLetter c || u.isNumber c || isWhitespace c || c == '-'

/-- `.replace(/x+/g, r)` for a character class `p`: each maximal run becomes `r`. `inRun` says
that the previous character was in a run. -/
def replaceRuns (p : Char → Bool) (r : Char) : Bool → List Char → List Char
  | _, [] => []
  | inRun, c :: cs =>
    if p c then (if inRun then replaceRuns p r true cs else r :: replaceRuns p r true cs)
    else c :: replaceRuns p r false cs

/-- `.replace(/^-|-$/g, "")`: one leading and one trailing `-`. -/
def stripDashes (cs : List Char) : List Char :=
  let cs := match cs with
    | '-' :: rest => rest
    | _ => cs
  if cs.getLast? = some '-' then cs.dropLast else cs

/-- The slug pipeline of `generateSlug` on the candidate's text. -/
def slugOf (u : UnicodeCategories) (text : String) : String :=
  let cs := (u.cases.toLowerCase (slice text 60)).data.filter (isSlugChar u)
  let cs := replaceRuns isWhitespace '-' false (trim ⟨cs⟩).data
  let cs := stripDashes (replaceRuns (· == '-') '-' false cs)
  ⟨sliceChars 40 cs⟩

def generateSlug (u : UnicodeCategories) (messages : List ParsedMessage) : String :=
  match messages.find? (fun m => m.role == "user" && 10 < utf16Length m.text) with
  | none => "conversation"
  | some candidate =>
    let slug := slugOf u candidate.text
    if slug = "" then "conversation" else slug

/-! ## The file's text -/

structure ImportantMemoryParams where
  category : ConversationCategory
  matchedKeywords : List String
  messages : List ParsedMessage
  date : String
  sessionKey : String
  sessionId : String

/-- A message's text, cut at 500 code units. -/
def preview (text : String) : String :=
  if 500 < utf16Length text then slice text 500 ++ "..." else text

def buildImportantMemoryMarkdown (u : UnicodeCategories) (params : ImportantMemoryParams) : String :=
  let title := params.category.name ++ " - " ++ generateSlug u params.messages
  let parts := ["# Important: " ++ title, "Date: " ++ params.date,
    "Category: " ++ params.category.name, "Tags: " ++ ", ".intercalate params.matchedKeywords,
    "Session Key: " ++ params.sessionKey, "Session ID: " ++ params.sessionId, "",
    "## Conversation", ""] ++
    params.messages.flatMap fun msg => ["**" ++ msg.role ++ "**: " ++ preview msg.text, ""]
  "\n".intercalate parts

end QverisBot.Hooks
