import Mathlib.Data.Nat.Defs
import Mathlib.Data.Nat.Digits

/-! # How the QVeris tools report a failed call

`classifyQverisError` of the QVeris tools (`src/unnamed/part_006`) and the errors
`qverisSearch` and `qverisExecute` throw for a response that is not ok. A thrown value is a
`DOMException` (which is also an `Error`), another `Error`, or anything else, seen through
`String(err)`. The status is found by `/\((\d{3})\)/`, whose first match is the leftmost one.
-/

namespace QverisBot.Tools

/-- A value a QVeris call can throw. -/
inductive ThrownValue
  | domException (name message : String)
  | error (name message : String)
  /-- Not an `Error`: what `String(err)` gives. -/
  | other (text : String)
  deriving DecidableEq, Repr

inductive QverisErrorType
  | timeout
  | httpError
  | networkError
  | jsonParseError
  deriving DecidableEq, Repr

/-- `QverisErrorResult`; `success` is always `false`. -/
structure QverisErrorResult where
  errorType : QverisErrorType
  status : Option Nat
  detail : String
  retryHint : Option String
  deriving DecidableEq, Repr

/-! ## The status in a message -/

/-- The value of the digits `a b c`. -/
def threeDigitValue (a b c : Char) : Nat :=
  100 * (a.toNat - '0'.toNat) + 10 * (b.toNat - '0'.toNat) + (c.toNat - '0'.toNat)

/-- `(\d{3})\)` right after a `(`: the three digits' value. -/
def statusAt : List Char → Option Nat
  | a :: b :: c :: ')' :: _ => if a.isDigit && b.isDigit && c.isDigit then some (threeDigitValue a b c) else none
  | _ => none

/-- `message.match(/\((\d{3})\)/)`, then `Number(match[1])`: the leftmost match. -/
def matchStatus : List Char → Option Nat
  | [] => none
  | c :: rest => (if c = '(' then statusAt rest else none).orElse fun _ => matchStatus rest

/-! ## The classifier -/

def timedOutResult : QverisErrorResult :=
  ⟨.timeout, none, "Request timed out", some "Increase timeout_seconds or retry with a simpler query."⟩

def clientErrorHint : String := "Check tool_id, search_id, and params_to_tool structure."

def serviceErrorHint : String := "QVeris service error — retry in a moment."

def networkErrorHint : String := "Check network connectivity and retry."

/-- The `err instanceof Error` branch, for an error that is not an abort. -/
def classifyErrorMessage (message : String) : QverisErrorResult :=
  match matchStatus message.data with
  | some status =>
    ⟨.httpError, some status, message,
      some (if 400 ≤ status ∧ status < 500 then clientErrorHint else serviceErrorHint)⟩
  | none => ⟨.networkError, none, message, some networkErrorHint⟩

def classifyQverisError : ThrownValue → QverisErrorResult
  | .domException name message => if name = "AbortError" then timedOutResult else classifyErrorMessage message
  | .error name message => if name = "AbortError" then timedOutResult else classifyErrorMessage message
  | .other text => ⟨.networkError, none, text, some networkErrorHint⟩

/-! ## What the API client throws -/

/-- The fields of a `fetch` response the client reads when it is not ok. -/
structure HttpResponse where
  ok : Bool
  status : Nat
  /-- `await res.text()`, `none` where it rejects. -/
  text : Option String
  statusText : String

/-- `` `QVeris ${operation} failed (${res.status}): ${detail || res.statusText}` ``. -/
def failureMessage (operation : String) (response : HttpResponse) : String :=
  let detail := response.text.getD ""
  "QVeris " ++ operation ++ " failed (" ++ toString response.status ++ "): " ++
    (if detail = "" then response.statusText else detail)

/-- The `Error` `qverisSearch` throws for a response that is not ok. -/
def qverisSearchFailure (response : HttpResponse) : ThrownValue :=
  .error "Error" (failureMessage "search" response)

/-- The `Error` `qverisExecute` throws for a response that is not ok. -/
def qverisExecuteFailure (response : HttpResponse) : ThrownValue :=
  .error "Error" (failureMessage "execute" response)

/-! ## Reading a status back -/

theorem toDigits_three {s : Nat} (h1 : 100 ≤ s) (h2 : s < 1000) :
    Nat.toDigits 10 s = [Nat.digitChar (s / 100), Nat.digitChar (s / 10 % 10), Nat.digitChar (s % 10)] := by
  have h3 : s / 10 ≠ 0 := by omega
  have h4 : s / 10 / 10 ≠ 0 := by omega
  have h5 : s / 10 / 10 / 10 = 0 := by omega
  have h6 : s / 10 / 10 % 10 = s / 100 := by omega
  obtain ⟨k, hk⟩ : ∃ k, s + 1 = k + 1 + 1 + 1 := ⟨s - 2, by omega⟩
  rw [Nat.toDigits, hk, Nat.toDigitsCore, Nat.toDigitsCore, Nat.toDigitsCore]
  simp only [if_neg h3, if_neg h4, if_pos h5, h6]

theorem digitChar_digit : ∀ k < 10, (Nat.digitChar k).isDigit = true ∧
    (Nat.digitChar k).toNat - '0'.toNat = k := by decide

theorem statusAt_toString {s : Nat} (h1 : 100 ≤ s) (h2 : s < 1000) (rest : List Char) :
    statusAt ((toString s).data ++ ')' :: rest) = some s := by
  have hs : (toString s).data = Nat.toDigits 10 s := rfl
  obtain ⟨ha, ha'⟩ := digitChar_digit (s / 100) (by omega)
  obtain ⟨hb, hb'⟩ := digitChar_digit (s / 10 % 10) (by omega)
  obtain ⟨hc, hc'⟩ := digitChar_digit (s % 10) (by omega)
  rw [hs, toDigits_three h1 h2]
  simp only [List.cons_append, List.nil_append, statusAt, ha, hb, hc, Bool.and_self, if_true,
    threeDigitValue, ha', hb', hc', Option.some.injEq]
  omega

theorem matchStatus_append {p : List Char} (hp : '(' ∉ p) (rest : List Char) :
    matchStatus (p ++ rest) = matchStatus rest := by
  induction p with
  | nil => rfl
  | cons c cs ih =>
    rw [List.mem_cons, not_or] at hp
    simp only [List.cons_append, matchStatus, if_neg (Ne.symm hp.1), List.append_eq, ih hp.2]
    rfl

theorem matchStatus_failureMessage {operation : String} (hop : '(' ∉ operation.data)
    (response : HttpResponse) (h1 : 100 ≤ response.status) (h2 : response.status < 1000) :
    matchStatus (failureMessage operation response).data = some response.status := by
  have hprefix : '(' ∉ ("QVeris " ++ operation ++ " failed ").data := by
    simp only [String.data_append, List.mem_append, not_or]
    exact ⟨⟨by decide, hop⟩, by decide⟩
  have hmsg : (failureMessage operation response).data = ("QVeris " ++ operation ++ " failed ").data ++
      '(' :: ((toString response.status).data ++ ')' :: (": " ++ (if (response.text.getD "") = ""
        then response.statusText else response.text.getD "")).data) := by
    simp [failureMessage, String.data_append]
  rw [hmsg, matchStatus_append hprefix, matchStatus, if_pos rfl, statusAt_toString h1 h2]
  rfl

/-! ## The theorems -/

/-- **A failed call's status survives classification.** For a response that is not ok with a
three-digit status, the error `qverisSearch` or `qverisExecute` throws is classified as an
HTTP error with that status and the message as detail; the hint is the client one exactly
for a 4xx status, whatever the response's text holds. -/
theorem classifyQverisError_failure (response : HttpResponse) (h1 : 100 ≤ response.status)
    (h2 : response.status < 1000) :
    let expected (operation : String) : QverisErrorResult :=
      ⟨.httpError, some response.status, failureMessage operation response,
        some (if 400 ≤ response.status ∧ response.status < 500 then clientErrorHint
          else serviceErrorHint)⟩
    classifyQverisError (qverisSearchFailure response) = expected "search" ∧
      classifyQverisError (qverisExecuteFailure response) = expected "execute" := by
  constructor <;>
  · simp only [classifyQverisError, qverisSearchFailure, qverisExecuteFailure, classifyErrorMessage]
    rw [if_neg (by decide), matchStatus_failureMessage (by decide) response h1 h2]

theorem classifyQverisError_failure_422 :
    (100 ≤ 422 ∧ 422 < 1000) ∧
      classifyQverisError (qverisExecuteFailure ⟨false, 422, some "unprocessable entity", ""⟩) =
        ⟨.httpError, some 422, "QVeris execute failed (422): unprocessable entity", some clientErrorHint⟩ :=
  ⟨by decide, (classifyQverisError_failure ⟨false, 422, some "unprocessable entity", ""⟩
    (by decide) (by decide)).2⟩

end QverisBot.Tools
