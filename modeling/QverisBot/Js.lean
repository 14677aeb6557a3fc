import Mathlib.Data.List.Basic
import Mathlib.Algebra.Order.Ring.Nat

/-! # The JavaScript values the routing core reads

Strings are Lean strings. Only the runtime behaviour the source relies on is here:
`String.prototype.trim`, case mapping, UTF-16 lengths, `includes`, truthiness of optional strings, and the members every object
literal inherits from `Object.prototype`.
-/

namespace QverisBot.Js

/-! ## `trim` -/

/-- The code points `String.prototype.trim` removes: ECMAScript's WhiteSpace and
LineTerminator. -/
def whitespaceCodePoints : List Nat :=
  [0x09, 0x0A, 0x0B, 0x0C, 0x0D, 0x20, 0xA0, 0x1680, 0x2000, 0x2001, 0x2002, 0x2003, 0x2004,
    0x2005, 0x2006, 0x2007, 0x2008, 0x2009, 0x200A, 0x2028, 0x2029, 0x202F, 0x205F, 0x3000,
    0xFEFF]

def isWhitespace (c : Char) : Bool := whitespaceCodePoints.contains c.toNat

/-- `s.trim()`. -/
def trim (s : String) : String :=
  ⟨((s.data.dropWhile isWhitespace).reverse.dropWhile isWhitespace).reverse⟩

theorem dropWhile_of_head {p : Char → Bool} :
    ∀ {cs : List Char}, (∀ c ∈ cs.head?, p c = false) → cs.dropWhile p = cs
  | [], _ => rfl
  | c :: _, h => List.dropWhile_cons_of_neg (by simp [h c rfl])

theorem trim_of_ends {cs : List Char} (hhead : ∀ c ∈ cs.head?, isWhitespace c = false)
    (hlast : ∀ c ∈ cs.getLast?, isWhitespace c = false) : trim ⟨cs⟩ = ⟨cs⟩ := by
  simp only [trim, dropWhile_of_head hhead, dropWhile_of_head (by rwa [List.head?_reverse]),
    List.reverse_reverse]

theorem mem_trim {c : Char} {s : String} (h : c ∈ (trim s).data) : c ∈ s.data := by
  simp only [trim, List.mem_reverse] at h
  exact (List.dropWhile_suffix _).subset (List.mem_reverse.mp ((List.dropWhile_suffix _).subset h))

/-- `!s?.trim()`: the optional string is absent or blank. -/
def isBlank : Option String → Bool
  | some s => trim s == ""
  | none => true

/-! ## Substrings -/

/-- `t` occurs in the characters of `s`. -/
def isInfixOf (t : List Char) : List Char → Bool
  | [] => t.isEmpty
  | c :: cs => t.isPrefixOf (c :: cs) || isInfixOf t cs

/-- `s.includes(t)`. On well-formed strings a match of code units is a match of code points. -/
def includes (s t : String) : Bool := isInfixOf t.data s.data

theorem isInfixOf_iff {t : List Char} : ∀ {s : List Char}, isInfixOf t s = true ↔ t <:+: s
  | [] => by simp [isInfixOf]
  | c :: cs => by
    simp only [isInfixOf, Bool.or_eq_true, List.isPrefixOf_iff_prefix, isInfixOf_iff,
      List.infix_cons_iff]

/-! ## Case mapping

`toLowerCase` and `toUpperCase` follow the Unicode case tables, which the model does not copy:
they are a parameter, with the facts the program relies on. On ASCII text they are the ASCII
mappings. Lower-casing maps each character on its own, except the capital sigma `Σ`, which
becomes `σ` or the final form `ς` depending on the letters around it (Unicode's Final_Sigma
context), and only `Σ` lowers to a sigma. -/

/-- The final sigma read as `σ`. -/
def foldSigma (c : Char) : Char := if c = 'ς' then 'σ' else c

def isSigma (c : Char) : Bool := c == 'Σ' || c == 'σ' || c == 'ς'

/-- `String.prototype.toLowerCase` and `String.prototype.toUpperCase`. -/
structure CaseMapping where
  toLowerCase : String → String
  toUpperCase : String → String
  lower_ascii : ∀ s : String, (∀ c ∈ s.data, c.toNat < 128) → toLowerCase s = ⟨s.data.map Char.toLower⟩
  upper_ascii : ∀ s : String, (∀ c ∈ s.data, c.toNat < 128) → toUpperCase s = ⟨s.data.map Char.toUpper⟩
  /-- Appending changes the lowered text only where a sigma takes its other form. -/
  lower_append : ∀ a b : String, (toLowerCase (a ++ b)).data.map foldSigma =
    ((toLowerCase a).data ++ (toLowerCase b).data).map foldSigma
  lower_sigma : ∀ s : String, (∀ c ∈ s.data, isSigma c = false) →
    ∀ c ∈ (toLowerCase s).data, isSigma c = false

theorem le_toNat_of_isSigma {c : Char} (h : isSigma c = true) : 931 ≤ c.toNat := by
  simp only [isSigma, Bool.or_eq_true, beq_iff_eq] at h
  rcases h with (rfl | rfl) | rfl <;> decide

theorem toNat_ofNat_of_lt {n : Nat} (h : n < 0xd800) : (Char.ofNat n).toNat = n := by
  simp only [Char.ofNat, show n.isValidChar from Or.inl h, dite_true]
  rfl

theorem isSigma_toLower (c : Char) : isSigma c.toLower = isSigma c := by
  simp only [Char.toLower]
  split
  · have := toNat_ofNat_of_lt (n := c.toNat + 32) (by omega)
    rw [Bool.eq_iff_iff]
    constructor <;> intro hs <;> have := le_toNat_of_isSigma hs <;> omega
  · rfl

theorem toNat_toLower_lt {c : Char} (h : c.toNat < 128) : c.toLower.toNat < 128 := by
  simp only [Char.toLower]
  split
  · rw [toNat_ofNat_of_lt (by omega)]
    omega
  · exact h

/-- The ASCII mappings of `Char.toLower` and `Char.toUpper`: the case mapping on texts with no
other cased letters. -/
def asciiCaseMapping : CaseMapping where
  toLowerCase s := ⟨s.data.map Char.toLower⟩
  toUpperCase s := ⟨s.data.map Char.toUpper⟩
  lower_ascii _ _ := rfl
  upper_ascii _ _ := rfl
  lower_append a b := by simp only [String.data_append, List.map_append]
  lower_sigma s hs c hc := by
    obtain ⟨d, hd, rfl⟩ := List.mem_map.mp hc
    rw [isSigma_toLower, hs d hd]

theorem foldSigma_eq_self {c : Char} (h : isSigma c = false) : foldSigma c = c :=
  if_neg fun hc => by simp [hc, isSigma] at h

theorem eq_of_map_foldSigma {k : List Char} (hk : ∀ c ∈ k, isSigma c = false) :
    ∀ {l : List Char}, l.map foldSigma = k.map foldSigma → l = k := by
  induction k with
  | nil => intro l h; simpa using h
  | cons d ds ih =>
    intro l h
    obtain ⟨e, es, rfl, he, hes⟩ := List.map_eq_cons_iff.mp (h.trans (List.map_cons _ _ _))
    have hd := hk d (List.mem_cons_self _ _)
    rw [foldSigma_eq_self hd] at he
    have : e ≠ 'ς' := by
      rintro rfl
      rw [← he] at hd
      exact absurd hd (by decide)
    rw [foldSigma, if_neg this] at he
    rw [he, ih (fun c hc => hk c (List.mem_cons_of_mem _ hc)) hes]

theorem CaseMapping.includes_lower_append (cm : CaseMapping) {t kw : String}
    (hkw : ∀ c ∈ kw.data, isSigma c = false)
    (h : includes (cm.toLowerCase t) (cm.toLowerCase kw) = true) (s : String) :
    includes (cm.toLowerCase (t ++ s)) (cm.toLowerCase kw) = true := by
  rw [includes, isInfixOf_iff] at h ⊢
  obtain ⟨pre, post, hsplit⟩ := (h.trans (List.prefix_append _ (cm.toLowerCase s).data).isInfix).map foldSigma
  rw [← cm.lower_append] at hsplit
  obtain ⟨l₁, l₃, hl, hl₁, -⟩ := List.map_eq_append_iff.mp hsplit.symm
  obtain ⟨l₁, l₂, rfl, -, hl₂⟩ := List.map_eq_append_iff.mp hl₁
  rw [hl, eq_of_map_foldSigma (cm.lower_sigma kw hkw) hl₂]
  exact ⟨l₁, l₃, rfl⟩

/-! ## UTF-16 lengths and slices -/

/-- The UTF-16 code units of a character: two above U+FFFF. -/
def utf16Units (c : Char) : Nat := if c.toNat > 0xFFFF then 2 else 1

/-- `s.length`, in UTF-16 code units. -/
def utf16Length (s : String) : Nat := (s.data.map utf16Units).sum

/-- The characters of `s.slice(0, n)`. A pair cut in half leaves its high surrogate, which
every output of the program (a file, a file name) writes as U+FFFD: the model keeps U+FFFD in
its place. -/
def sliceChars : Nat → List Char → List Char
  | _, [] => []
  | n, c :: cs =>
    if utf16Units c ≤ n then c :: sliceChars (n - utf16Units c) cs
    else if n = 0 then [] else ['\uFFFD']

/-- `s.slice(0, n)`. -/
def slice (s : String) (n : Nat) : String := ⟨sliceChars n s.data⟩

theorem sliceChars_units_le : ∀ (n : Nat) (cs : List Char), ((sliceChars n cs).map utf16Units).sum ≤ n
  | _, [] => Nat.zero_le _
  | n, c :: cs => by
    simp only [sliceChars]
    split
    · have := sliceChars_units_le (n - utf16Units c) cs
      simp only [List.map_cons, List.sum_cons]
      omega
    · split
      · exact Nat.zero_le _
      · have : utf16Units '\uFFFD' = 1 := by decide
        simp only [List.map_cons, List.map_nil, List.sum_cons, List.sum_nil, this]
        omega

theorem sliceChars_zero : ∀ cs : List Char, sliceChars 0 cs = []
  | [] => rfl
  | c :: _ => by
    have : ¬utf16Units c ≤ 0 := by unfold utf16Units; split <;> omega
    simp [sliceChars, this]

theorem sliceChars_append {l₁ : List Char} : ∀ {n : Nat} (l₂ : List Char),
    (l₁.map utf16Units).sum ≤ n → sliceChars n (l₁ ++ l₂) = l₁ ++ sliceChars (n - (l₁.map utf16Units).sum) l₂ := by
  induction l₁ with
  | nil => intro n l₂ _; rfl
  | cons c cs ih =>
    intro n l₂ h
    simp only [List.map_cons, List.sum_cons] at h ⊢
    rw [List.cons_append, sliceChars, if_pos (by omega), ih l₂ (by omega), Nat.sub_sub, List.cons_append]

theorem sliceChars_replicate {c : Char} (hc : utf16Units c = 1) :
    ∀ {m n : Nat}, m ≤ n → ∀ rest, sliceChars m (List.replicate n c ++ rest) = List.replicate m c
  | 0, _, _, rest => sliceChars_zero _
  | m + 1, n + 1, h, rest => by
    rw [List.replicate_succ, List.cons_append, sliceChars, if_pos (by rw [hc]; omega), hc,
      Nat.add_sub_cancel, sliceChars_replicate hc (Nat.le_of_succ_le_succ h) rest, List.replicate_succ]

theorem sliceChars_prefix : ∀ (n : Nat) (cs : List Char),
    sliceChars n cs <+: cs ∨ ∃ p, p <+: cs ∧ sliceChars n cs = p ++ ['\uFFFD']
  | _, [] => .inl (List.prefix_refl _)
  | n, c :: cs => by
    simp only [sliceChars]
    split
    · rcases sliceChars_prefix (n - utf16Units c) cs with h | ⟨p, hp, h⟩
      · exact .inl (List.cons_prefix_cons.mpr ⟨rfl, h⟩)
      · exact .inr ⟨c :: p, List.cons_prefix_cons.mpr ⟨rfl, hp⟩, by rw [h]; rfl⟩
    · split
      · exact .inl (List.nil_prefix)
      · exact .inr ⟨[], List.nil_prefix, rfl⟩

/-! ## Truthiness -/

/-- A `string | undefined` is truthy when it is a non-empty string. -/
def truthy : Option String → Bool
  | some s => s != ""
  | none => false

@[simp] theorem truthy_none : truthy none = false := rfl

@[simp] theorem truthy_some (s : String) : truthy (some s) = (s != "") := rfl

theorem isSome_of_truthy {o : Option String} (h : truthy o = true) : ∃ s, o = some s ∧ s ≠ "" := by
  cases o with
  | none => simp at h
  | some s => exact ⟨s, rfl, by simpa using h⟩

/-! ## Object literals used as maps -/

/-- The properties a plain object inherits from `Object.prototype` in Node. Looking one of
them up on an object literal finds the inherited member, not `undefined`. -/
def objectPrototypeMembers : List String :=
  ["constructor", "__defineGetter__", "__defineSetter__", "hasOwnProperty", "__lookupGetter__",
    "__lookupSetter__", "isPrototypeOf", "propertyIsEnumerable", "toString", "valueOf",
    "__proto__", "toLocaleString"]

end QverisBot.Js
