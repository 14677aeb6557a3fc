import Mathlib.Data.Rat.Defs

/-! # JSON values and `JSON.parse`

The values `JSON.parse` returns, and the parser itself over the characters of its input. A
number is the exact value of its literal, where JavaScript rounds it to a double. An escaped
lone surrogate, which a Lean string cannot hold, is read as U+FFFD.
-/

namespace QverisBot

/-- A value `JSON.parse` returns. Object members keep their order and repeats. -/
inductive JsonValue
  | null
  | bool (b : Bool)
  | number (n : ℚ)
  | string (s : String)
  | array (items : List JsonValue)
  | object (fields : List (String × JsonValue))

namespace JsonValue

/-- `value[key]` on a parsed object: the last binding of a repeated key wins. -/
def field : JsonValue → String → Option JsonValue
  | .object fields, key => (fields.reverse.find? (·.1 == key)).map (·.2)
  | _, _ => none

/-- A looked-up value, when it is a string. -/
def string? : Option JsonValue → Option String
  | some (.string s) => some s
  | _ => none

/-- `!!value && typeof value === "object"`: objects and arrays. -/
def isObject : JsonValue → Bool
  | .object _ | .array _ => true
  | _ => false

/-- JavaScript truthiness of a parsed value. -/
def truthy : JsonValue → Bool
  | .null => false
  | .bool b => b
  | .number n => n != 0
  | .string s => s != ""
  | .array _ | .object _ => true

end JsonValue

namespace Json

/-! ## Lexical pieces -/

/-- The four characters JSON allows between tokens. -/
def isWs (c : Char) : Bool := c == ' ' || c == '\t' || c == '\n' || c == '\r'

def skipWs (cs : List Char) : List Char := cs.dropWhile isWs

def hexDigit? (c : Char) : Option Nat :=
  if '0' ≤ c ∧ c ≤ '9' then some (c.toNat - '0'.toNat)
  else if 'a' ≤ c ∧ c ≤ 'f' then some (c.toNat - 'a'.toNat + 10)
  else if 'A' ≤ c ∧ c ≤ 'F' then some (c.toNat - 'A'.toNat + 10)
  else none

/-- The code unit of the four hex digits after `\u`. -/
def hex4? : List Char → Option (Nat × List Char)
  | a :: b :: c :: d :: rest => do
    let a ← hexDigit? a
    let b ← hexDigit? b
    let c ← hexDigit? c
    let d ← hexDigit? d
    pure (((a * 16 + b) * 16 + c) * 16 + d, rest)
  | _ => none

def isHighSurrogate (u : Nat) : Bool := 0xD800 ≤ u && u ≤ 0xDBFF

def isLowSurrogate (u : Nat) : Bool := 0xDC00 ≤ u && u ≤ 0xDFFF

/-- The character a `\u` escape stands for, with the rest of the input: a high surrogate
escape followed by a low one is one code point; a lone surrogate is U+FFFD. -/
def unicodeEscape (u : Nat) (rest : List Char) : Char × List Char :=
  if isHighSurrogate u then
    match rest with
    | '\\' :: 'u' :: more =>
      match hex4? more with
      | some (v, after) =>
        if isLowSurrogate v then (Char.ofNat (0x10000 + (u - 0xD800) * 0x400 + (v - 0xDC00)), after)
        else ('\uFFFD', rest)
      | none => ('\uFFFD', rest)
    | _ => ('\uFFFD', rest)
  else if isLowSurrogate u then ('\uFFFD', rest)
  else (Char.ofNat u, rest)

def simpleEscape? : Char → Option Char
  | '"' => some '"'
  | '\\' => some '\\'
  | '/' => some '/'
  | 'b' => some '\x08'
  | 'f' => some '\x0C'
  | 'n' => some '\n'
  | 'r' => some '\r'
  | 't' => some '\t'
  | _ => none

/-- A string's characters after its opening quote, up to the closing one. Every step reads a
character, so `fuel` at the input's length is enough. -/
def parseStringBody : Nat → List Char → List Char → Option (String × List Char)
  | 0, _, _ => none
  | _ + 1, _, [] => none
  | _ + 1, acc, '"' :: rest => some (⟨acc.reverse⟩, rest)
  | fuel + 1, acc, '\\' :: 'u' :: rest =>
    match hex4? rest with
    | some (u, after) =>
      let (c, after) := unicodeEscape u after
      parseStringBody fuel (c :: acc) after
    | none => none
  | fuel + 1, acc, '\\' :: e :: rest =>
    match simpleEscape? e with
    | some c => parseStringBody fuel (c :: acc) rest
    | none => none
  | fuel + 1, acc, c :: rest =>
    if c.toNat < 0x20 || c == '\\' then none else parseStringBody fuel (c :: acc) rest

def parseString (cs : List Char) : Option (String × List Char) :=
  parseStringBody cs.length [] cs

/-! ## Numbers -/

/-- The value of a digit string. -/
def digitsValue (ds : List Char) : Nat :=
  ds.foldl (fun n d => 10 * n + (d.toNat - '0'.toNat)) 0

/-- `[1-9][0-9]*` or `0`: the integer part's digits. -/
def intPart? : List Char → Option (List Char × List Char)
  | '0' :: rest => some (['0'], rest)
  | d :: rest =>
    if d.isDigit && d != '0' then some (d :: rest.takeWhile Char.isDigit, rest.dropWhile Char.isDigit)
    else none
  | [] => none

/-- An optional `.` and one or more digits. -/
def fracPart? : List Char → Option (List Char × List Char)
  | '.' :: rest =>
    let ds := rest.takeWhile Char.isDigit
    if ds = [] then none else some (ds, rest.dropWhile Char.isDigit)
  | cs => some ([], cs)

/-- An optional exponent: `e` or `E`, a sign, one or more digits. -/
def expPart? : List Char → Option (Int × List Char)
  | e :: rest =>
    if e == 'e' || e == 'E' then
      let (neg, rest) := match rest with
        | '-' :: more => (true, more)
        | '+' :: more => (false, more)
        | more => (false, more)
      let ds := rest.takeWhile Char.isDigit
      if ds = [] then none
      else some ((if neg then -1 else 1) * (digitsValue ds : Int), rest.dropWhile Char.isDigit)
    else some (0, e :: rest)
  | [] => some (0, [])

def parseNumber (cs : List Char) : Option (ℚ × List Char) := do
  let (neg, cs) := match cs with
    | '-' :: more => (true, more)
    | more => (false, more)
  let (intDigits, cs) ← intPart? cs
  let (fracDigits, cs) ← fracPart? cs
  let (e, cs) ← expPart? cs
  let mantissa : ℚ := digitsValue (intDigits ++ fracDigits)
  let shift : Int := e - fracDigits.length
  let value := if 0 ≤ shift then mantissa * 10 ^ shift.toNat else mantissa / 10 ^ (-shift).toNat
  pure (if neg then -value else value, cs)

/-! ## Values -/

mutual
/-- A value after optional whitespace. Every two calls read a character, so `fuel` at twice
the input's length is enough. -/
def parseValue : Nat → List Char → Option (JsonValue × List Char)
  | 0, _ => none
  | fuel + 1, cs =>
    match skipWs cs with
    | 'n' :: 'u' :: 'l' :: 'l' :: rest => some (.null, rest)
    | 't' :: 'r' :: 'u' :: 'e' :: rest => some (.bool true, rest)
    | 'f' :: 'a' :: 'l' :: 's' :: 'e' :: rest => some (.bool false, rest)
    | '"' :: rest => (parseString rest).map fun (s, rest) => (.string s, rest)
    | '[' :: rest =>
      match skipWs rest with
      | ']' :: after => some (.array [], after)
      | _ => parseElements fuel [] rest
    | '{' :: rest =>
      match skipWs rest with
      | '}' :: after => some (.object [], after)
      | _ => parseMembers fuel [] rest
    | other => (parseNumber other).map fun (n, rest) => (.number n, rest)

/-- Array elements after `[` or a `,`, up to the closing `]`. -/
def parseElements : Nat → List JsonValue → List Char → Option (JsonValue × List Char)
  | 0, _, _ => none
  | fuel + 1, acc, cs =>
    match parseValue fuel cs with
    | some (v, rest) =>
      match skipWs rest with
      | ',' :: more => parseElements fuel (v :: acc) more
      | ']' :: more => some (.array (v :: acc).reverse, more)
      | _ => none
    | none => none

/-- Object members after `{` or a `,`, up to the closing `}`. -/
def parseMembers : Nat → List (String × JsonValue) → List Char → Option (JsonValue × List Char)
  | 0, _, _ => none
  | fuel + 1, acc, cs =>
    match skipWs cs with
    | '"' :: rest =>
      match parseString rest with
      | some (key, rest) =>
        match skipWs rest with
        | ':' :: rest =>
          match parseValue fuel rest with
          | some (v, rest) =>
            match skipWs rest with
            | ',' :: more => parseMembers fuel ((key, v) :: acc) more
            | '}' :: more => some (.object ((key, v) :: acc).reverse, more)
            | _ => none
          | none => none
        | _ => none
      | none => none
    | _ => none
end

/-- `JSON.parse(text)`, `none` where it throws. -/
def parse (text : String) : Option JsonValue :=
  match parseValue (2 * text.length + 2) text.data with
  | some (v, rest) => if skipWs rest = [] then some v else none
  | none => none

end Json

end QverisBot
