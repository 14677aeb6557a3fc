import Mathlib.Data.Int.Log
import Mathlib.Data.Rat.Floor
import QverisBot.Js

/-!
# JavaScript numbers

A number is an IEEE 754 double. The model keeps a finite double as its exact rational value,
with `-0` taken as `0` (nothing modelled tells them apart), and computes an operation as the
standard says: exactly, then rounded to the nearest double, ties to even, with an infinity past
the largest double. `parseInt`, `Math.floor`, `Math.max` and the end index of
`Array.prototype.slice` are here too.
-/

namespace QverisBot.Js

inductive JsNumber
  | finite (q : ℚ)
  | posInf
  | negInf
  | nan
  deriving DecidableEq, Repr

namespace JsNumber

/-! ## Rounding -/

/-- The integer nearest to `x`, the even one on a tie. -/
def roundHalfEven (x : ℚ) : ℤ :=
  if x - ⌊x⌋ < 1 / 2 then ⌊x⌋
  else if 1 / 2 < x - ⌊x⌋ then ⌊x⌋ + 1
  else if ⌊x⌋ % 2 = 0 then ⌊x⌋ else ⌊x⌋ + 1

/-- The exponent of the doubles around `q`: `e` with `2^e ≤ |q| < 2^(e+1)`, and −1022 for the
subnormals. -/
def binade (q : ℚ) : ℤ := max (Int.log 2 |q|) (-1022)

/-- The spacing of the doubles around `q`: 52 bits below the leading one. -/
def ulp (q : ℚ) : ℚ := 2 ^ (binade q - 52)

/-- The double nearest to `q`, ties to even; an infinity from `2^1024` on, where the rounded
value leaves the format. -/
def roundDouble (q : ℚ) : JsNumber :=
  let m := roundHalfEven (|q| / ulp q) * ulp q
  if 2 ^ 1024 ≤ m then (if 0 < q then posInf else negInf)
  else finite (if q < 0 then -m else m)

/-! ## Arithmetic and comparison -/

def neg : JsNumber → JsNumber
  | finite a => finite (-a)
  | posInf => negInf
  | negInf => posInf
  | nan => nan

def isNaN : JsNumber → Bool
  | nan => true
  | _ => false

/-- `a < b`: false when either is `NaN`. -/
def lt : JsNumber → JsNumber → Bool
  | finite a, finite b => decide (a < b)
  | finite _, posInf | negInf, finite _ | negInf, posInf => true
  | _, _ => false

/-- `a >= b`: false when either is `NaN`. -/
def ge (a b : JsNumber) : Bool := !(a.isNaN || b.isNaN || a.lt b)

/-- `Math.floor`. -/
def mathFloor : JsNumber → JsNumber
  | finite a => finite ⌊a⌋
  | x => x

/-- `Math.max(a, b)`: `NaN` when either is. -/
def mathMax (a b : JsNumber) : JsNumber :=
  if a.isNaN || b.isNaN then nan else if a.lt b then b else a

/-! ## Indices and `parseInt` -/

/-- How many elements `slice(0, end)` keeps of an array of `len`: the end is truncated toward
zero (`NaN` is 0), counted from the back when negative, and clamped to the array. -/
def sliceEnd (len : Nat) : JsNumber → Nat
  | nan => 0
  | posInf => len
  | negInf => 0
  | finite a =>
    let r := if a < 0 then ⌈a⌉ else ⌊a⌋
    if r < 0 then ((len : ℤ) + r).toNat else min r.toNat len

/-! ## `Number::toString` -/

/-- The `k`-digit decimal `s × 10^(n-k)` that reads back as the double `x > 0`, with `n` the
place of the decimal point: of the two neighbours of `x` with `k` significant digits, the one
that rounds to `x`, the closer if both do and the even one on a tie. -/
def decimalOfDigits? (x : ℚ) (k : ℕ) : Option (ℕ × ℤ) :=
  let n := Int.log 10 x + 1
  let scale : ℚ := 10 ^ (n - k)
  let lo := ⌊x / scale⌋.toNat
  let hi := ⌈x / scale⌉.toNat
  let back (s : ℕ) : Bool := roundDouble (s * scale) = finite x
  -- `10^k` has `k + 1` digits: it is `10^(k-1)` with the point one place on
  let point (s : ℕ) : ℕ × ℤ := if s = 10 ^ k then (10 ^ (k - 1), n + 1) else (s, n)
  if back lo && back hi then
    some (point (if x - lo * scale < hi * scale - x then lo
      else if hi * scale - x < x - lo * scale then hi
      else if lo % 2 = 0 then lo else hi))
  else if back lo then some (point lo)
  else if back hi then some (point hi)
  else none

/-- The fewest significant digits that read back as the double `x > 0`, as `(s, n)`; seventeen
always do. -/
def shortestDecimal (x : ℚ) : ℕ × ℤ :=
  ((List.range' 1 17).findSome? (decimalOfDigits? x)).getD
    (⌊x / 10 ^ (Int.log 10 x + 1 - 17)⌋.toNat, Int.log 10 x + 1)

/-- The layout of `Number::toString` for the digits `ds` of `s` and the point place `n`: plain
digits up to 21 places, then a fraction, `0.` and up to six zeros, and else an exponent. -/
def layoutDecimal (ds : List Char) (n : ℤ) : List Char :=
  let k : ℤ := ds.length
  if k ≤ n ∧ n ≤ 21 then ds ++ List.replicate (n - k).toNat '0'
  else if 0 < n ∧ n ≤ 21 then ds.take n.toNat ++ '.' :: ds.drop n.toNat
  else if -6 < n ∧ n ≤ 0 then '0' :: '.' :: (List.replicate (-n).toNat '0' ++ ds)
  else
    let mantissa := match ds with
      | d :: rest@(_ :: _) => d :: '.' :: rest
      | ds => ds
    mantissa ++ 'e' :: (if 0 ≤ n - 1 then '+' else '-') :: Nat.toDigits 10 (n - 1).natAbs

/-- `Number::toString(x)`, radix 10. -/
def toString : JsNumber → String
  | nan => "NaN"
  | posInf => "Infinity"
  | negInf => "-Infinity"
  | finite x =>
    if x = 0 then "0" else
    let (s, n) := shortestDecimal |x|
    ⟨(if x < 0 then ['-'] else []) ++ layoutDecimal (Nat.toDigits 10 s) n⟩

end JsNumber

open JsNumber

/-- `xs.slice(0, end)`. -/
def sliceTo {α : Type} (xs : List α) (e : JsNumber) : List α := xs.take (sliceEnd xs.length e)

/-- The value of a digit in bases up to 36, `0`–`9` then `a`–`z` in either case; 36 for a
character that is no digit. -/
def digitValue (c : Char) : Nat :=
  if c.isDigit then c.toNat - 48
  else if c.isLower then c.toNat - 87
  else if c.isUpper then c.toNat - 55
  else 36

/-- `parseInt(string)` with no radix: leading whitespace, a sign, `0x` for base 16, then the
longest run of digits, rounded to a double; `NaN` when there is no digit. -/
def parseInt (s : String) : JsNumber :=
  let cs := s.data.dropWhile isWhitespace
  let (negative, cs) := match cs with
    | '-' :: rest => (true, rest)
    | '+' :: rest => (false, rest)
    | _ => (false, cs)
  let (radix, cs) := match cs with
    | '0' :: 'x' :: rest | '0' :: 'X' :: rest => (16, rest)
    | _ => (10, cs)
  let digits := cs.takeWhile (digitValue · < radix)
  if digits.isEmpty then nan else
  let value : ℚ := digits.foldl (fun v c => v * radix + digitValue c) 0
  roundDouble (if negative then -value else value)

example : parseInt "all" = nan ∧ parseInt "" = nan ∧ parseInt "0x" = nan := by decide

namespace JsNumber

/-! ## Safe integers are exact -/

theorem sliceEnd_le (len : Nat) : ∀ e : JsNumber, sliceEnd len e ≤ len
  | nan | negInf => Nat.zero_le _
  | posInf => le_rfl
  | finite a => by
    simp only [sliceEnd]
    split <;> split <;> omega

theorem sliceTo_length {α : Type} (xs : List α) (e : JsNumber) :
    (sliceTo xs e).length = sliceEnd xs.length e := by
  simp [sliceTo, sliceEnd_le]

theorem sliceEnd_mathMax_one_eq_zero {len : Nat} {n : JsNumber} :
    sliceEnd len (mathMax (finite 1) n) = 0 ↔ n.isNaN = true ∨ len = 0 := by
  cases n with
  | finite a =>
    by_cases ha : 1 < a
    · have hfloor : 0 < ⌊a⌋ := Int.floor_pos.mpr ha.le
      simp [mathMax, isNaN, lt, sliceEnd, ha, not_lt.mpr (zero_le_one.trans ha.le), hfloor.not_lt]
      omega
    · simp [mathMax, isNaN, lt, sliceEnd, ha]
  | _ => simp [mathMax, isNaN, lt, sliceEnd]

@[simp] theorem ge_finite (a b : ℚ) : (finite a).ge (finite b) = decide (b ≤ a) := by
  rcases lt_or_le a b with h | h
  · simp [ge, isNaN, lt, h, not_le.mpr h]
  · simp [ge, isNaN, lt, h, not_lt.mpr h]

end JsNumber

end QverisBot.Js
