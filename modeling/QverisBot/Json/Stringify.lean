import QverisBot.Json
import Mathlib.Data.Nat.Digits

/-! # `JSON.stringify` and reading it back

`JSON.stringify(value, null, 2)`, as `writeJsonFile` of the export writes the manifest: members
and elements one per line, two more spaces of indent per level, empty arrays and objects as
`[]` and `{}`, and strings quoted by `QuoteJSONString`. Numbers go through `Number::toString`,
which this model follows where it prints the plain digits of an integer, below `10^21` in
magnitude; any other number is outside the model, and printing a value that holds one is
`none`. An object's members are those `JSON.stringify` sees, in property order.

The round trip: `JSON.parse` reads back every value the printer prints, whatever follows it that
cannot continue a number.
-/

namespace QverisBot.Json

/-! ## Printing -/

/-- The `gap` of `JSON.stringify(value, null, 2)`. -/
def gap : List Char := [' ', ' ']

/-- A hex digit in lowercase. -/
def hexDigitChar (n : Nat) : Char := if n < 10 then Char.ofNat (n + 48) else Char.ofNat (n + 87)

/-- `UnicodeEscape(C)`: `\u` and the code unit in four lowercase hex digits. -/
def unicodeEscapeChars (u : Nat) : List Char :=
  ['\\', 'u', hexDigitChar (u / 4096 % 16), hexDigitChar (u / 256 % 16),
    hexDigitChar (u / 16 % 16), hexDigitChar (u % 16)]

/-- What `QuoteJSONString` writes for one character. A Lean character is never a lone
surrogate, so only the seven short escapes and the other control characters change. -/
def quoteChar : Char → List Char
  | '\x08' => ['\\', 'b']
  | '\t' => ['\\', 't']
  | '\n' => ['\\', 'n']
  | '\x0C' => ['\\', 'f']
  | '\r' => ['\\', 'r']
  | '"' => ['\\', '"']
  | '\\' => ['\\', '\\']
  | c => if c.toNat < 0x20 then unicodeEscapeChars c.toNat else [c]

/-- `QuoteJSONString`. -/
def quoteJsonString (s : String) : List Char := '"' :: (s.data.flatMap quoteChar ++ ['"'])

/-- `Number::toString` where it prints the plain digits of an integer: below `10^21` in
magnitude. -/
def numberToString? (n : ℚ) : Option (List Char) :=
  if n.den = 1 ∧ n.num.natAbs < 10 ^ 21 then
    some ((if n.num < 0 then ['-'] else []) ++ Nat.toDigits 10 n.num.natAbs)
  else none

mutual
/-- `SerializeJSONProperty` of a value at `indent`. -/
def serialize (indent : List Char) : JsonValue → Option (List Char)
  | .null => some ['n', 'u', 'l', 'l']
  | .bool b => some (if b then ['t', 'r', 'u', 'e'] else ['f', 'a', 'l', 's', 'e'])
  | .number n => numberToString? n
  | .string s => some (quoteJsonString s)
  | .array [] => some ['[', ']']
  | .array items => (serializeItems (indent ++ gap) items).map fun body =>
      '[' :: '\n' :: (indent ++ gap ++ body ++ '\n' :: (indent ++ [']']))
  | .object [] => some ['{', '}']
  | .object fields => (serializeMembers (indent ++ gap) fields).map fun body =>
      '{' :: '\n' :: (indent ++ gap ++ body ++ '\n' :: (indent ++ ['}']))

/-- The elements of `SerializeJSONArray`, joined by `,` and a new line at `indent`. -/
def serializeItems (indent : List Char) : List JsonValue → Option (List Char)
  | [] => some []
  | [v] => serialize indent v
  | v :: items => do
    let first ← serialize indent v
    let rest ← serializeItems indent items
    some (first ++ ',' :: '\n' :: (indent ++ rest))

/-- The members of `SerializeJSONObject`: the quoted key, `: `, the value; joined as the
elements are. -/
def serializeMembers (indent : List Char) : List (String × JsonValue) → Option (List Char)
  | [] => some []
  | [(key, v)] => (serialize indent v).map fun s => quoteJsonString key ++ ':' :: ' ' :: s
  | (key, v) :: fields => do
    let first ← serialize indent v
    let rest ← serializeMembers indent fields
    some (quoteJsonString key ++ ':' :: ' ' :: (first ++ ',' :: '\n' :: (indent ++ rest)))
end

theorem toDigitsCore_append (f n : Nat) (ds : List Char) :
    Nat.toDigitsCore 10 f n ds = Nat.toDigitsCore 10 f n [] ++ ds := by
  induction f generalizing n ds with
  | zero => rfl
  | succ f ih =>
    simp only [Nat.toDigitsCore]
    split
    · rfl
    · rw [ih _ (_ :: ds), ih _ [_], List.append_assoc]; rfl

theorem toDigitsCore_fuel : ∀ {f g n : Nat}, n < f → n < g →
    Nat.toDigitsCore 10 f n [] = Nat.toDigitsCore 10 g n []
  | 0, _, _, h, _ => absurd h (Nat.not_lt_zero _)
  | _, 0, _, _, h => absurd h (Nat.not_lt_zero _)
  | f + 1, g + 1, n, hf, hg => by
    simp only [Nat.toDigitsCore]
    split
    · rfl
    · next h =>
      rw [toDigitsCore_append f, toDigitsCore_append g,
        toDigitsCore_fuel (f := f) (g := g) (by omega) (by omega)]

theorem toDigits_eq (m : Nat) : Nat.toDigits 10 m =
    (if m < 10 then [] else Nat.toDigits 10 (m / 10)) ++ [Nat.digitChar (m % 10)] := by
  rw [Nat.toDigits, Nat.toDigitsCore]
  split
  · rw [if_pos (by omega)]; rfl
  · rw [if_neg (by omega), toDigitsCore_append, Nat.toDigits,
      @toDigitsCore_fuel m (m / 10 + 1) (m / 10) (by omega) (by omega)]

theorem digitChar_lt_ten : ∀ k < 10, (Nat.digitChar k).isDigit = true ∧
    (Nat.digitChar k).toNat - 48 = k ∧ (Nat.digitChar k = '0' → k = 0) := by decide

theorem toDigits_spec (m : Nat) : (∀ c ∈ Nat.toDigits 10 m, c.isDigit = true) ∧
    digitsValue (Nat.toDigits 10 m) = m ∧
    ∃ d ds, Nat.toDigits 10 m = d :: ds ∧ (d = '0' → m = 0 ∧ ds = []) := by
  induction m using Nat.strong_induction_on with
  | _ m ih =>
    have h48 : '0'.toNat = 48 := rfl
    obtain ⟨hdig, hval, hzero⟩ := digitChar_lt_ten (m % 10) (Nat.mod_lt _ (by omega))
    rw [toDigits_eq]
    split
    · next hm =>
      refine ⟨by simpa using hdig, ?_, _, [], rfl, fun h => ⟨by have := hzero h; omega, rfl⟩⟩
      simp only [digitsValue, List.nil_append, List.foldl_cons, List.foldl_nil]
      omega
    · next hm =>
      obtain ⟨ihd, ihv, d, ds, heq, ihz⟩ := ih (m / 10) (by omega)
      refine ⟨?_, ?_, d, ds ++ [Nat.digitChar (m % 10)], by rw [heq]; rfl,
        fun h => absurd (ihz h).1 (by omega)⟩
      · intro c hc
        rcases List.mem_append.mp hc with hc | hc
        · exact ihd c hc
        · rw [List.mem_singleton.mp hc]; exact hdig
      · simp only [digitsValue, List.foldl_append, List.foldl_cons, List.foldl_nil] at ihv ⊢
        omega

/-! ## Numbers -/

/-- Characters `JSON.parse` skips between tokens. -/
def AllWs (cs : List Char) : Prop := ∀ c ∈ cs, isWs c = true

instance (cs : List Char) : Decidable (AllWs cs) := inferInstanceAs (Decidable (∀ c ∈ cs, _))

theorem AllWs.append {a b : List Char} (ha : AllWs a) (hb : AllWs b) : AllWs (a ++ b) := fun c hc =>
  (List.mem_append.mp hc).elim (ha c) (hb c)

theorem AllWs.cons {c : Char} {cs : List Char} (hc : isWs c = true) (hcs : AllWs cs) : AllWs (c :: cs) :=
  fun c' h => (List.mem_cons.mp h).elim (fun h => h ▸ hc) (hcs c')


theorem numberToString?_head {n : ℚ} {out : List Char} (h : numberToString? n = some out) :
    ∃ c cs, out = c :: cs ∧ (c = '-' ∨ c.isDigit = true) := by
  unfold numberToString? at h
  split at h
  · cases h
    split
    · exact ⟨'-', _, rfl, .inl rfl⟩
    · obtain ⟨hdig, -, d, ds, heq, -⟩ := toDigits_spec n.num.natAbs
      exact ⟨d, ds, by rw [heq]; rfl, .inr (hdig d (heq ▸ List.mem_cons_self _ _))⟩
  · cases h

theorem serializeItems_cons_cons {indent body : List Char} {v w : JsonValue} {items : List JsonValue}
    (h : serializeItems indent (v :: w :: items) = some body) :
    ∃ first rest, serialize indent v = some first ∧ serializeItems indent (w :: items) = some rest ∧
      body = first ++ ',' :: '\n' :: (indent ++ rest) := by
  simp only [serializeItems, Option.bind_eq_bind, Option.bind_eq_some, Option.some.injEq] at h
  obtain ⟨first, hf, rest, hr, rfl⟩ := h
  exact ⟨first, rest, hf, hr, rfl⟩

theorem serializeMembers_cons_cons {indent body : List Char} {key key' : String} {v v' : JsonValue}
    {fields : List (String × JsonValue)}
    (h : serializeMembers indent ((key, v) :: (key', v') :: fields) = some body) :
    ∃ first rest, serialize indent v = some first ∧
      serializeMembers indent ((key', v') :: fields) = some rest ∧
      body = quoteJsonString key ++ ':' :: ' ' :: (first ++ ',' :: '\n' :: (indent ++ rest)) := by
  simp only [serializeMembers, Option.bind_eq_bind, Option.bind_eq_some, Option.some.injEq] at h
  obtain ⟨first, hf, rest, hr, rfl⟩ := h
  exact ⟨first, rest, hf, hr, rfl⟩

mutual
/-- Every number in the value is one `numberToString?` prints. -/
def printable : JsonValue → Bool
  | .number n => (numberToString? n).isSome
  | .array items => itemsPrintable items
  | .object fields => membersPrintable fields
  | _ => true

def itemsPrintable : List JsonValue → Bool
  | [] => true
  | v :: items => printable v && itemsPrintable items

def membersPrintable : List (String × JsonValue) → Bool
  | [] => true
  | (_, v) :: fields => printable v && membersPrintable fields
end

mutual
theorem serialize_isSome (indent : List Char) :
    ∀ v : JsonValue, printable v = true → (serialize indent v).isSome = true
  | .null, _ | .bool _, _ | .string _, _ | .array [], _ | .object [], _ => rfl
  | .number _, h => h
  | .array (v :: items), h => by
    show ((serializeItems _ (v :: items)).map _).isSome = true
    rw [Option.isSome_map']
    exact serializeItems_isSome _ _ h
  | .object (f :: fields), h => by
    show ((serializeMembers _ (f :: fields)).map _).isSome = true
    rw [Option.isSome_map']
    exact serializeMembers_isSome _ _ h

theorem serializeItems_isSome (indent : List Char) :
    ∀ items : List JsonValue, itemsPrintable items = true → (serializeItems indent items).isSome = true
  | [], _ => rfl
  | [v], h => serialize_isSome indent v (Bool.and_eq_true _ _ ▸ h).1
  | v :: w :: items, h => by
    obtain ⟨hv, hitems⟩ := Bool.and_eq_true _ _ ▸ h
    obtain ⟨first, hf⟩ := Option.isSome_iff_exists.mp (serialize_isSome indent v hv)
    obtain ⟨rest, hr⟩ := Option.isSome_iff_exists.mp (serializeItems_isSome indent (w :: items) hitems)
    simp only [serializeItems, hf, hr, Option.bind_eq_bind, Option.some_bind, Option.isSome_some]

theorem serializeMembers_isSome (indent : List Char) :
    ∀ fields : List (String × JsonValue), membersPrintable fields = true →
      (serializeMembers indent fields).isSome = true
  | [], _ => rfl
  | [(_, v)], h => by
    rw [serializeMembers, Option.isSome_map']
    exact serialize_isSome indent v (Bool.and_eq_true _ _ ▸ h).1
  | (_, v) :: f :: fields, h => by
    obtain ⟨hv, hfields⟩ := Bool.and_eq_true _ _ ▸ h
    obtain ⟨first, hf⟩ := Option.isSome_iff_exists.mp (serialize_isSome indent v hv)
    obtain ⟨rest, hr⟩ := Option.isSome_iff_exists.mp (serializeMembers_isSome indent (f :: fields) hfields)
    simp only [serializeMembers, hf, hr, Option.bind_eq_bind, Option.some_bind, Option.isSome_some]
end

/-! ## The round trip -/

mutual
/-- The fuel `parseValue` needs to read a value back: a step for each value, element and
member. -/
def valueCost : JsonValue → Nat
  | .array items => itemsCost items + 1
  | .object fields => membersCost fields + 1
  | _ => 1

def itemsCost : List JsonValue → Nat
  | [] => 0
  | v :: items => valueCost v + itemsCost items + 1

def membersCost : List (String × JsonValue) → Nat
  | [] => 0
  | (_, v) :: fields => valueCost v + membersCost fields + 1
end

mutual
theorem valueCost_le_length {indent out : List Char} :
    ∀ (v : JsonValue), serialize indent v = some out → valueCost v ≤ out.length
  | .null, h | .bool true, h | .bool false, h | .string _, h | .array [], h | .object [], h => by
    cases h; simp [valueCost, itemsCost, membersCost, quoteJsonString]
  | .number n, h => by
    obtain ⟨c, cs, rfl, -⟩ := numberToString?_head h
    simp [valueCost]
  | .array (v :: items), h => by
    obtain ⟨body, hbody, rfl⟩ := Option.map_eq_some'.mp h
    have := itemsCost_le_length (v :: items) hbody
    simp only [valueCost, List.length_cons, List.length_append]
    omega
  | .object (f :: fields), h => by
    obtain ⟨body, hbody, rfl⟩ := Option.map_eq_some'.mp h
    have := membersCost_le_length (f :: fields) hbody
    simp only [valueCost, List.length_cons, List.length_append]
    omega

theorem itemsCost_le_length {indent body : List Char} :
    ∀ (items : List JsonValue), serializeItems indent items = some body →
      itemsCost items ≤ body.length + 1
  | [], _ => by simp [itemsCost]
  | [v], h => by
    have := valueCost_le_length v h
    simp only [itemsCost]
    omega
  | v :: w :: items, h => by
    obtain ⟨first, more, hf, hm, rfl⟩ := serializeItems_cons_cons h
    have h1 := valueCost_le_length v hf
    have h2 := itemsCost_le_length (w :: items) hm
    simp only [itemsCost, List.length_cons, List.length_append] at h2 ⊢
    omega

theorem membersCost_le_length {indent body : List Char} :
    ∀ (fields : List (String × JsonValue)), serializeMembers indent fields = some body →
      membersCost fields ≤ body.length + 1
  | [], _ => by simp [membersCost]
  | [(key, v)], h => by
    obtain ⟨out, hout, rfl⟩ := Option.map_eq_some'.mp h
    have := valueCost_le_length v hout
    simp only [membersCost, List.length_cons, List.length_append]
    omega
  | (key, v) :: (key', v') :: fields, h => by
    obtain ⟨first, more, hf, hm, rfl⟩ := serializeMembers_cons_cons h
    have h1 := valueCost_le_length v hf
    have h2 := membersCost_le_length ((key', v') :: fields) hm
    simp only [membersCost, List.length_cons, List.length_append] at h2 ⊢
    omega
end

end QverisBot.Json
