import QverisBot.Hooks.SmartMemory.Handler
import Mathlib.Data.List.Basic
import Mathlib.Data.List.Nodup
import Mathlib.Data.List.Chain

/-! # What the classification and the slug guarantee

Classification is monotone in the text: more text only adds keyword hits, so the first rule
with enough hits can only move up `CATEGORY_RULES`. Whatever the case mapping, appending text
changes the lowered text only where a `Σ` takes its other form (Final_Sigma), and no keyword
holds a sigma, so a keyword found in a text is found in every longer one.

The slug is followed stage by stage through `generateSlug`'s chain of replacements: what
each stage keeps, and what the last `slice(0, 40)` can break.
-/

namespace QverisBot.Hooks

open QverisBot.Js

/-! ## Classification -/

/-- A category's place in `CATEGORY_RULES`; `routine`, which no rule gives, comes last. -/
def categoryRank (c : ConversationCategory) : Nat := (categoryRules.map (·.category)).indexOf c

/-- A keyword with no `Σ`, `σ` or `ς`: its lowered form does not depend on what surrounds it. -/
def SigmaFree (kw : String) : Prop := ∀ c ∈ kw.data, isSigma c = false

/-- Every sigma-free keyword a lower-cased text includes, the other includes too. -/
def IncludesAll (cm : CaseMapping) (lower lower' : String) : Prop :=
  ∀ kw, SigmaFree kw → includes lower (cm.toLowerCase kw) = true →
    includes lower' (cm.toLowerCase kw) = true

variable {cm : CaseMapping} {lower lower' : String}

theorem matchKeywords_sublist (h : IncludesAll cm lower lower') :
    ∀ keywords : List String, (∀ kw ∈ keywords, SigmaFree kw) →
      (matchKeywords cm lower keywords).Sublist (matchKeywords cm lower' keywords)
  | [], _ => List.Sublist.slnil
  | kw :: kws, hk => by
    have ih := matchKeywords_sublist h kws fun k hk' => hk k (List.mem_cons_of_mem _ hk')
    simp only [matchKeywords, List.filter_cons] at ih ⊢
    by_cases hkw : includes lower (cm.toLowerCase kw) = true
    · rw [if_pos hkw, if_pos (h kw (hk kw (List.mem_cons_self _ _)) hkw)]
      exact ih.cons₂ _
    · rw [if_neg hkw]
      split
      · exact ih.cons _
      · exact ih

theorem classifyByRules_category (lower : String) :
    ∀ rules : List CategoryRule, (classifyByRules cm lower rules).category ∈ rules.map (·.category) ∨
      (classifyByRules cm lower rules).category = .routine
  | [] => .inr rfl
  | rule :: rules => by
    simp only [classifyByRules]
    split
    · exact .inl (List.mem_cons_self _ _)
    · rcases classifyByRules_category lower rules with h | h
      · exact .inl (List.mem_cons_of_mem _ h)
      · exact .inr h

theorem classifyByRules_mono (h : IncludesAll cm lower lower') :
    ∀ rules : List CategoryRule, (rules.map (·.category)).Nodup →
      .routine ∉ rules.map (·.category) → (∀ rule ∈ rules, ∀ kw ∈ rule.keywords, SigmaFree kw) →
      (rules.map (·.category)).indexOf (classifyByRules cm lower' rules).category ≤
          (rules.map (·.category)).indexOf (classifyByRules cm lower rules).category ∧
        ((classifyByRules cm lower' rules).category = (classifyByRules cm lower rules).category →
          (classifyByRules cm lower rules).matchedKeywords.Sublist
            (classifyByRules cm lower' rules).matchedKeywords)
  | [], _, _, _ => ⟨le_refl _, fun _ => List.Sublist.refl _⟩
  | rule :: rules, hnodup, hroutine, hsigma => by
    rw [List.map_cons, List.nodup_cons] at hnodup
    rw [List.map_cons, List.mem_cons, not_or] at hroutine
    have hsub := matchKeywords_sublist h rule.keywords (hsigma rule (List.mem_cons_self _ _))
    -- the rest of the rules never give the head rule's category
    have hne : ∀ lower, (classifyByRules cm lower rules).category ≠ rule.category := by
      intro lower heq
      rcases classifyByRules_category lower rules with hm | hm
      · exact hnodup.1 (heq ▸ hm)
      · exact hroutine.1 (hm ▸ heq)
    simp only [classifyByRules, List.map_cons]
    by_cases hfire' : rule.minHits ≤ (matchKeywords cm lower' rule.keywords).length
    · rw [if_pos hfire']
      split
      · exact ⟨le_refl _, fun _ => hsub⟩
      · refine ⟨by simp, fun heq => absurd heq.symm (hne lower)⟩
    · have hfire : ¬rule.minHits ≤ (matchKeywords cm lower rule.keywords).length :=
        fun hf => hfire' (hf.trans hsub.length_le)
      rw [if_neg hfire', if_neg hfire, List.indexOf_cons_ne _ (hne lower').symm,
        List.indexOf_cons_ne _ (hne lower).symm]
      obtain ⟨hrank, hkeywords⟩ := classifyByRules_mono h rules hnodup.2 hroutine.2
        fun r hr => hsigma r (List.mem_cons_of_mem _ hr)
      exact ⟨Nat.succ_le_succ hrank, hkeywords⟩

theorem categoryRules_nodup : (categoryRules.map (·.category)).Nodup := by decide

theorem routine_not_mem_categoryRules : .routine ∉ categoryRules.map (·.category) := by decide

theorem categoryRules_sigmaFree : ∀ rule ∈ categoryRules, ∀ kw ∈ rule.keywords, SigmaFree kw := by
  unfold SigmaFree
  decide

theorem categoryRank_lt_routine {c : ConversationCategory}
    (h : c ∈ categoryRules.map (·.category)) : categoryRank c < categoryRank .routine :=
  List.indexOf_lt_length.mpr h |>.trans_eq (by decide)

/-! ## The slug -/

/-- What every slug is: at most 40 code units, no leading `-`, no `--`, and letters,
numbers and `-`, except a U+FFFD left last by a cut pair. -/
structure SlugShape (u : UnicodeCategories) (cs : List Char) : Prop where
  units_le : (cs.map utf16Units).sum ≤ 40
  head_ne_dash : cs.head? ≠ some '-'
  no_double_dash : cs.Chain' fun a b => ¬(a = '-' ∧ b = '-')
  chars : ∀ c ∈ cs, u.isLetter c = true ∨ u.isNumber c = true ∨ c = '-' ∨
    (c = '\uFFFD' ∧ cs.getLast? = some c)

section runs

variable {p : Char → Bool} {r : Char}

theorem mem_replaceRuns {c : Char} : ∀ {inRun : Bool} {cs : List Char},
    c ∈ replaceRuns p r inRun cs → (c ∈ cs ∧ p c = false) ∨ c = r
  | _, [] => by simp [replaceRuns]
  | _, d :: cs => fun h => by
    have ih : ∀ b, c ∈ replaceRuns p r b cs → (c ∈ d :: cs ∧ p c = false) ∨ c = r := fun _ hb =>
      (mem_replaceRuns hb).imp_left fun ⟨hm, hp⟩ => ⟨List.mem_cons_of_mem _ hm, hp⟩
    simp only [replaceRuns] at h
    split at h
    · split at h
      · exact ih _ h
      · rcases List.mem_cons.mp h with rfl | h
        · exact .inr rfl
        · exact ih _ h
    · rcases List.mem_cons.mp h with rfl | h
      · exact .inl ⟨List.mem_cons_self _ _, by simpa using ‹¬p c = true›⟩
      · exact ih _ h

theorem replaceRuns_chain (hr : p r = true) : ∀ (inRun : Bool) (cs : List Char),
    (replaceRuns p r inRun cs).Chain' (fun a b => ¬(p a = true ∧ p b = true)) ∧
      (inRun = true → ∀ x ∈ (replaceRuns p r inRun cs).head?, p x = false)
  | _, [] => ⟨List.chain'_nil, fun _ _ h => by simp [replaceRuns] at h⟩
  | inRun, c :: cs => by
    obtain ⟨htrue, hhead⟩ := replaceRuns_chain hr true cs
    have hfalse := (replaceRuns_chain hr false cs).1
    simp only [replaceRuns]
    split
    · split
      · exact ⟨htrue, fun _ => hhead rfl⟩
      · refine ⟨List.chain'_cons'.mpr ⟨fun y hy hboth => ?_, htrue⟩, fun h => absurd h ‹_›⟩
        simp [hhead rfl y hy] at hboth
    · refine ⟨List.chain'_cons'.mpr ⟨fun _ _ hboth => ‹¬p c = true› hboth.1, hfalse⟩, ?_⟩
      intro _ x hx
      simp only [List.head?_cons, Option.mem_def, Option.some.injEq] at hx
      simpa [← hx] using ‹¬p c = true›

end runs

theorem chain_of_isInfix {R : Char → Char → Prop} {l cs : List Char} (h : cs.Chain' R)
    (hl : l <:+: cs) : l.Chain' R := by
  obtain ⟨s, t, rfl⟩ := hl
  exact (List.chain'_append.mp (List.chain'_append.mp h).1).2.1

theorem head?_of_prefix {l₁ l₂ : List Char} (h : l₁ <+: l₂) :
    l₁.head? = none ∨ l₁.head? = l₂.head? := by
  obtain ⟨t, rfl⟩ := h
  cases l₁ <;> simp

theorem stripDashes_prefix (cs : List Char) :
    ∃ l, l <:+: cs ∧ (cs.Chain' (fun a b => ¬(a = '-' ∧ b = '-')) → l.head? ≠ some '-') ∧
      stripDashes cs <+: l := by
  refine ⟨match cs with | '-' :: rest => rest | _ => cs, ?_, ?_, ?_⟩
  · split
    · exact (List.suffix_cons _ _).isInfix
    · exact List.infix_refl _
  · split
    · intro h hhead
      have := (List.chain'_cons'.mp h).1 '-' hhead
      exact this ⟨rfl, rfl⟩
    · rename_i hnot
      intro _ hhead
      cases cs with
      | nil => cases hhead
      | cons c rest =>
        cases (Option.some.inj hhead : c = '-')
        exact hnot rest rfl
  · simp only [stripDashes]
    split
    · exact List.dropLast_prefix _
    · exact List.prefix_refl _

theorem sliceChars_shape (u : UnicodeCategories) {cs : List Char}
    (hchars : ∀ c ∈ cs, u.isLetter c = true ∨ u.isNumber c = true ∨ c = '-')
    (hchain : cs.Chain' fun a b => ¬(a = '-' ∧ b = '-')) (hhead : cs.head? ≠ some '-') :
    SlugShape u (sliceChars 40 cs) := by
  have hunits := sliceChars_units_le 40 cs
  rcases sliceChars_prefix 40 cs with hp | ⟨p, hp, heq⟩
  · refine ⟨hunits, ?_, chain_of_isInfix hchain hp.isInfix, fun c hc => ?_⟩
    · rcases head?_of_prefix hp with h | h <;> rw [h]
      · exact Option.noConfusion
      · exact hhead
    · rcases hchars c (hp.subset hc) with h | h | h
      exacts [.inl h, .inr (.inl h), .inr (.inr (.inl h))]
  · rw [heq] at hunits ⊢
    refine ⟨hunits, ?_, ?_, fun c hc => ?_⟩
    · rcases p with _ | ⟨d, p⟩
      · decide
      · have hd : some d = cs.head? := by simpa using head?_of_prefix hp
        simpa [← hd] using hhead
    · refine List.chain'_append.mpr ⟨chain_of_isInfix hchain hp.isInfix, List.chain'_singleton _, ?_⟩
      intro _ _ y hy hboth
      simp only [List.head?_cons, Option.mem_def, Option.some.injEq] at hy
      exact absurd (hy ▸ hboth.2) (by decide)
    · rcases List.mem_append.mp hc with hc | hc
      · rcases hchars c (hp.subset hc) with h | h | h
        exacts [.inl h, .inr (.inl h), .inr (.inr (.inl h))]
      · rw [List.mem_singleton.mp hc]
        exact .inr (.inr (.inr ⟨rfl, by simp⟩))

theorem slugOf_shape (u : UnicodeCategories) (text : String) : SlugShape u (slugOf u text).data := by
  show SlugShape u (sliceChars 40 (stripDashes (replaceRuns (· == '-') '-' false
    (replaceRuns isWhitespace '-' false
      (trim ⟨(u.cases.toLowerCase (slice text 60)).data.filter (isSlugChar u)⟩).data))))
  have h2 : ∀ c ∈ (trim ⟨(u.cases.toLowerCase (slice text 60)).data.filter (isSlugChar u)⟩).data,
      isSlugChar u c = true := fun c hc => (List.mem_filter.mp (mem_trim hc)).2
  generalize (trim _).data = s2 at h2 ⊢
  have h3 : ∀ c ∈ replaceRuns isWhitespace '-' false s2,
      u.isLetter c = true ∨ u.isNumber c = true ∨ c = '-' := by
    intro c hc
    rcases mem_replaceRuns hc with ⟨hm, hws⟩ | rfl
    · simpa [isSlugChar, hws, or_assoc] using h2 c hm
    · exact .inr (.inr rfl)
  generalize replaceRuns isWhitespace '-' false s2 = s3 at h3 ⊢
  have h4 : ∀ c ∈ replaceRuns (· == '-') '-' false s3,
      u.isLetter c = true ∨ u.isNumber c = true ∨ c = '-' := by
    intro c hc
    rcases mem_replaceRuns hc with ⟨hm, -⟩ | rfl
    · exact h3 c hm
    · exact .inr (.inr rfl)
  have hchain : (replaceRuns (· == '-') '-' false s3).Chain' fun a b => ¬(a = '-' ∧ b = '-') :=
    (@replaceRuns_chain (· == '-') '-' rfl false s3).1.imp fun a b h hab => h (by simp [hab.1, hab.2])
  generalize replaceRuns (· == '-') '-' false s3 = s4 at h4 hchain ⊢
  obtain ⟨l, hl, hhead, hpre⟩ := stripDashes_prefix s4
  have hsub := hpre.isInfix.trans hl
  refine sliceChars_shape u (fun c hc => h4 c (hsub.subset hc)) (chain_of_isInfix hchain hsub) ?_
  rcases head?_of_prefix hpre with h | h <;> rw [h]
  · exact Option.noConfusion
  · exact hhead hchain

theorem conversation_shape (u : UnicodeCategories) : SlugShape u "conversation".data := by
  have hascii : ∀ c ∈ "conversation".data, c.toNat < 128 ∧ c.isAlpha = true := by decide
  have hpairwise : "conversation".data.Pairwise fun a b => ¬(a = '-' ∧ b = '-') := by decide
  refine ⟨by decide, by decide, hpairwise.chain', fun c hc => .inl ?_⟩
  rw [u.ascii_letter c (hascii c hc).1]
  exact (hascii c hc).2

theorem SlugShape.safe {u : UnicodeCategories} {cs : List Char} (h : SlugShape u cs) :
    ∀ c ∈ cs, isWhitespace c = false ∧ c ≠ '/' ∧ c ≠ '\\' ∧ c ≠ '.' := by
  have hascii : ∀ c ∈ ['/', '\\', '.'], c.toNat < 128 ∧ c.isAlpha = false ∧ c.isDigit = false := by
    decide
  intro c hc
  have hsep : c ∈ ['/', '\\', '.'] → False := fun hm => by
    rcases h.chars c hc with hl | hn | rfl | ⟨rfl, -⟩
    · rw [u.ascii_letter c (hascii c hm).1, (hascii c hm).2.1] at hl; cases hl
    · rw [u.ascii_number c (hascii c hm).1, (hascii c hm).2.2] at hn; cases hn
    all_goals revert hm; decide
  refine ⟨?_, fun h' => hsep (by simp [h']), fun h' => hsep (by simp [h']),
    fun h' => hsep (by simp [h'])⟩
  rcases h.chars c hc with hl | hn | rfl | ⟨rfl, -⟩
  · exact Bool.eq_false_iff.mpr fun hw => by simp [u.whitespace_not_letter c hw] at hl
  · exact Bool.eq_false_iff.mpr fun hw => by simp [u.whitespace_not_number c hw] at hn
  all_goals decide

theorem generateSlug_shape (u : UnicodeCategories) (messages : List ParsedMessage) :
    let slug := (generateSlug u messages).data
    slug ≠ [] ∧ SlugShape u slug ∧
      ∀ c ∈ slug, isWhitespace c = false ∧ c ≠ '/' ∧ c ≠ '\\' ∧ c ≠ '.' := by
  have hshape : SlugShape u (generateSlug u messages).data ∧ (generateSlug u messages).data ≠ [] := by
    unfold generateSlug
    split
    · exact ⟨conversation_shape u, by decide⟩
    · dsimp only
      split
      · exact ⟨conversation_shape u, by decide⟩
      · exact ⟨slugOf_shape u _, fun h => ‹¬_› (String.ext h)⟩
  exact ⟨hshape.2, hshape.1, hshape.1.safe⟩

theorem isSlugChar_ascii (u u' : UnicodeCategories) {c : Char} (hc : c.toNat < 128) :
    isSlugChar u c = isSlugChar u' c := by
  simp only [isSlugChar, u.ascii_letter c hc, u.ascii_number c hc, u'.ascii_letter c hc,
    u'.ascii_number c hc]

theorem slugOf_ascii (u u' : UnicodeCategories) (text : String)
    (h : ∀ c ∈ (slice text 60).data, c.toNat < 128) :
    slugOf u text = slugOf u' text := by
  have hlow : ∀ c ∈ (slice text 60).data.map Char.toLower, c.toNat < 128 := by
    simp only [List.mem_map]
    rintro _ ⟨c, hc, rfl⟩
    exact toNat_toLower_lt (h c hc)
  simp only [slugOf, u.cases.lower_ascii _ h, u'.cases.lower_ascii _ h,
    List.filter_congr fun c hc => isSlugChar_ascii u u' (hlow c hc)]

/-! ## The theorems -/

/-- **Appending never lowers the classification.** The category of `t ++ s` is `t`'s or an
earlier one in `CATEGORY_RULES`, never `routine` when `t`'s is not, and when it is `t`'s the
matched keywords keep all of `t`'s, in order. -/
theorem classifyConversation_append (cm : CaseMapping) (t s : String) :
    categoryRank (classifyConversation cm (t ++ s)).category ≤
        categoryRank (classifyConversation cm t).category ∧
      ((classifyConversation cm t).category ≠ .routine →
        (classifyConversation cm (t ++ s)).category ≠ .routine) ∧
      ((classifyConversation cm (t ++ s)).category = (classifyConversation cm t).category →
        (classifyConversation cm t).matchedKeywords.Sublist
          (classifyConversation cm (t ++ s)).matchedKeywords) := by
  have hincl : IncludesAll cm (cm.toLowerCase t) (cm.toLowerCase (t ++ s)) := fun _ hkw h =>
    cm.includes_lower_append hkw h s
  obtain ⟨hrank, hkeywords⟩ := classifyByRules_mono hincl categoryRules categoryRules_nodup
    routine_not_mem_categoryRules categoryRules_sigmaFree
  refine ⟨hrank, fun hbefore hafter => ?_, hkeywords⟩
  rcases classifyByRules_category (cm.toLowerCase t) categoryRules with hm | hm
  · have := (categoryRank_lt_routine hm).trans_le' hrank
    exact (Nat.lt_irrefl _) (hafter ▸ this)
  · exact hbefore hm

/-- **A slug can end in `-`.** `slice(0, 40)` runs after the dashes are stripped: 39 letters
and a space before more text leave a slug whose last character is the separator. -/
theorem generateSlug_trailing_dash (u : UnicodeCategories) :
    generateSlug u [⟨"user", "aaaaaaaaaaaaaaaaaaaaaaaaaaaaaaaaaaaaaaa bbb"⟩] =
      "aaaaaaaaaaaaaaaaaaaaaaaaaaaaaaaaaaaaaaa-" := by
  have h := slugOf_ascii u asciiCategories "aaaaaaaaaaaaaaaaaaaaaaaaaaaaaaaaaaaaaaa bbb" (by decide)
  have hfind : [(⟨"user", "aaaaaaaaaaaaaaaaaaaaaaaaaaaaaaaaaaaaaaa bbb"⟩ : ParsedMessage)].find?
      (fun m => m.role == "user" && 10 < utf16Length m.text) =
        some ⟨"user", "aaaaaaaaaaaaaaaaaaaaaaaaaaaaaaaaaaaaaaa bbb"⟩ := by decide
  simp only [generateSlug, hfind, h]
  decide

end QverisBot.Hooks
