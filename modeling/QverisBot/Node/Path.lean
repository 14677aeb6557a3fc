import Mathlib.Data.List.Basic

/-! # Node's POSIX paths

`path.posix.normalize`, `join`, `basename` and `extname` of Node's runtime, which the migrate
commands call. A path is split on `/` into segments, and `normalizeString` is a stack over
them. Segments are character lists.
-/

namespace QverisBot.Node

abbrev Segment := List Char

def dotdot : Segment := ['.', '.']

/-- A segment `normalizeString` keeps as it is: not empty, not `.`, not `..`. -/
def isName (seg : Segment) : Bool := seg != [] && seg != ['.'] && seg != dotdot

/-- One segment of `normalizeString`. Empty and `.` segments are dropped; `..` pops the
segment below it unless that is a `..` too, and is kept only on a relative path. The stack
holds the last segment first. -/
def pushSegment (allowAboveRoot : Bool) (stack : List Segment) (seg : Segment) : List Segment :=
  if seg = [] ∨ seg = ['.'] then stack
  else if seg = dotdot then
    match stack with
    | top :: rest => if top = dotdot then (if allowAboveRoot then dotdot :: stack else stack) else rest
    | [] => if allowAboveRoot then [dotdot] else []
  else seg :: stack

def normalizeSegments (allowAboveRoot : Bool) (segs : List Segment) : List Segment :=
  (segs.foldl (pushSegment allowAboveRoot) []).reverse

def isAbsolute (p : String) : Bool := p.data.head? == some '/'

/-- Where a path points once `.` and `..` are resolved: absolute or not, and its segments. -/
def location (p : String) : Bool × List Segment :=
  (isAbsolute p, normalizeSegments (!isAbsolute p) (p.data.splitOn '/'))

/-- `path.posix.normalize`. -/
def normalize (p : String) : String :=
  if p = "" then "." else
  let segs := (location p).2
  let trailing := p.data.getLast? == some '/'
  if segs = [] then (if isAbsolute p then "/" else if trailing then "./" else ".")
  else ⟨(if isAbsolute p then ['/'] else []) ++ ['/'].intercalate segs ++
    (if trailing then ['/'] else [])⟩

/-- `path.posix.join`: the non-empty arguments joined by `/`, then normalized. -/
def join (parts : List String) : String :=
  match parts.filter (· != "") with
  | [] => "."
  | first :: rest => normalize (rest.foldl (fun joined part => joined ++ "/" ++ part) first)

/-- The last segment, trailing slashes ignored. -/
def lastSegment (p : String) : Segment :=
  ((p.data.splitOn '/').filter (· != [])).getLast?.getD []

/-- `path.posix.basename`. -/
def basename (p : String) : String := ⟨lastSegment p⟩

/-- `path.posix.extname`: from the last `.` of the last segment, unless that dot starts the
segment or the segment is `..`. -/
def extname (p : String) : String :=
  let seg := lastSegment p
  if seg = dotdot then "" else
  match (seg.reverse.findIdx? (· = '.')) with
  | some i => if i + 1 = seg.length then "" else ⟨seg.drop (seg.length - 1 - i)⟩
  | none => ""

example : extname "a/b.PY" = ".PY" ∧ extname ".env" = "" ∧ extname ".env.local" = ".local" ∧
    extname "a." = "." ∧ extname ".." = "" := by decide

/-- `target` lies inside `base`, or is `base`. -/
def isWithin (base target : String) : Prop :=
  (location target).1 = (location base).1 ∧ (location base).2 <+: (location target).2

instance (base target : String) : Decidable (isWithin base target) :=
  decidable_of_iff ((location target).1 = (location base).1 ∧
      ((location base).2.isPrefixOf (location target).2) = true)
    (by rw [List.isPrefixOf_iff_prefix]; rfl)

/-- `target` is the direct child of `base` named `name`. -/
def isChildNamed (base target name : String) : Prop :=
  location target = ((location base).1, (location base).2 ++ [name.data])

instance (base target name : String) : Decidable (isChildNamed base target name) :=
  inferInstanceAs (Decidable (_ = _))

/-! ## Splitting -/

theorem splitOn_append_slash (xs ys : List Char) :
    (xs ++ '/' :: ys).splitOn '/' = xs.splitOn '/' ++ ys.splitOn '/' := by
  simp only [List.splitOn]
  induction xs with
  | nil => simp
  | cons x xs ih =>
    simp only [List.cons_append, List.splitOnP_cons, ih]
    split
    · rfl
    · obtain ⟨a, l, h⟩ := List.exists_cons_of_ne_nil (List.splitOnP_ne_nil (· == '/') xs)
      simp [h]

theorem splitOn_slash_cons (xs : List Char) : ('/' :: xs).splitOn '/' = [] :: xs.splitOn '/' := by
  simp [List.splitOn]

theorem slash_not_mem_of_mem_splitOn {xs seg : List Char} (h : seg ∈ xs.splitOn '/') :
    '/' ∉ seg := by
  simp only [List.splitOn] at h
  induction xs generalizing seg with
  | nil => simp_all
  | cons x xs ih =>
    rw [List.splitOnP_cons] at h
    split at h
    · rcases List.mem_cons.mp h with rfl | h
      · simp
      · exact ih h
    · rename_i hx
      obtain ⟨a, l, hs⟩ := List.exists_cons_of_ne_nil (List.splitOnP_ne_nil (· == '/') xs)
      rw [hs] at h ih
      simp only [List.modifyHead_cons, List.mem_cons] at h
      rcases h with rfl | h
      · simp only [List.mem_cons, not_or]
        exact ⟨fun e => hx (by simp [← e]), ih (List.mem_cons_self _ _)⟩
      · exact ih (List.mem_cons_of_mem _ h)

/-! ## The segment stack -/

@[simp] theorem isName_dotdot : isName dotdot = false := rfl

@[simp] theorem dotdot_ne_nil : dotdot ≠ [] := by decide

@[simp] theorem dotdot_ne_dot : dotdot ≠ ['.'] := by decide

theorem pushSegment_of_isName {b : Bool} {seg : Segment} (h : isName seg = true) (stack : List Segment) :
    pushSegment b stack seg = seg :: stack := by
  simp only [isName, Bool.and_eq_true, bne_iff_ne, ne_eq] at h
  simp [pushSegment, h.1.1, h.1.2, h.2]

theorem empty_or_dot_of_not_isName {seg : Segment} (hn : ¬isName seg = true) (hd : seg ≠ dotdot) :
    seg = [] ∨ seg = ['.'] := by
  simp only [isName, Bool.and_eq_true, bne_iff_ne, ne_eq, not_and, not_not] at hn
  by_cases he : seg = []
  · exact .inl he
  · exact .inr (by_contra fun hp => hd (hn ⟨he, hp⟩))

theorem foldl_pushSegment_of_no_dotdot (b : Bool) {segs : List Segment} (h : dotdot ∉ segs)
    (stack : List Segment) :
    segs.foldl (pushSegment b) stack = (segs.filter isName).reverse ++ stack := by
  induction segs generalizing stack with
  | nil => rfl
  | cons seg segs ih =>
    simp only [List.mem_cons, not_or] at h
    rw [List.foldl_cons, ih h.2, List.filter_cons]
    by_cases hn : isName seg = true
    · simp [hn, pushSegment_of_isName hn]
    · simp [hn, pushSegment, empty_or_dot_of_not_isName hn (Ne.symm h.1)]

/-- A segment stack as `normalizeString` leaves it: names on top of a run of `..`, with no
`..` on an absolute path. -/
def NormalStack (allowAboveRoot : Bool) (stack : List Segment) : Prop :=
  ∃ names k, stack = names ++ List.replicate k dotdot ∧ (∀ s ∈ names, isName s ∧ '/' ∉ s) ∧
    (allowAboveRoot = false → k = 0)

theorem normalStack_push {b : Bool} {stack : List Segment} {seg : Segment}
    (hs : NormalStack b stack) (hseg : '/' ∉ seg) : NormalStack b (pushSegment b stack seg) := by
  obtain ⟨names, k, rfl, hnames, hk⟩ := hs
  by_cases hn : isName seg = true
  · rw [pushSegment_of_isName hn]
    exact ⟨seg :: names, k, rfl, by simpa [hn, hseg] using hnames, hk⟩
  by_cases hd : seg = dotdot
  · subst hd
    rcases names with _ | ⟨n, names⟩
    · cases b
      · obtain rfl := hk rfl
        exact ⟨[], 0, by simp [pushSegment, dotdot], by simp, fun _ => rfl⟩
      · refine ⟨[], k + 1, ?_, by simp, by simp⟩
        cases k <;> simp [pushSegment, dotdot, List.replicate_succ]
    · have hn' : n ≠ dotdot := fun h => by simpa [h] using (hnames n (by simp)).1
      refine ⟨names, k, by simp [pushSegment, hn'], fun s hs => hnames s (by simp [hs]), hk⟩
  · simp only [pushSegment, empty_or_dot_of_not_isName hn hd, if_true]
    exact ⟨names, k, rfl, hnames, hk⟩

theorem normalStack_foldl {b : Bool} {segs : List Segment} (h : ∀ seg ∈ segs, '/' ∉ seg)
    {stack : List Segment} (hs : NormalStack b stack) :
    NormalStack b (segs.foldl (pushSegment b) stack) := by
  induction segs generalizing stack with
  | nil => exact hs
  | cons seg segs ih =>
    exact ih (fun s hs => h s (by simp [hs])) (normalStack_push hs (h seg (by simp)))

theorem foldl_pushSegment_replicate (j k : Nat) :
    (List.replicate k dotdot).foldl (pushSegment true) (List.replicate j dotdot) =
      List.replicate (j + k) dotdot := by
  induction k generalizing j with
  | zero => rfl
  | succ k ih =>
    rw [List.replicate_succ, List.foldl_cons, show j + (k + 1) = j + 1 + k by omega, ← ih (j + 1)]
    congr
    cases j <;> simp [pushSegment, List.replicate_succ]

theorem foldl_reverse_of_normalStack {b : Bool} {stack : List Segment} (hs : NormalStack b stack) :
    stack.reverse.foldl (pushSegment b) [] = stack := by
  obtain ⟨names, k, rfl, hnames, hk⟩ := hs
  have hrep : (List.replicate k dotdot).foldl (pushSegment b) [] = List.replicate k dotdot := by
    cases b
    · rw [hk rfl]; rfl
    · simpa using foldl_pushSegment_replicate 0 k
  have hdd : dotdot ∉ names.reverse := fun h => by simpa using (hnames _ (List.mem_reverse.mp h)).1
  rw [List.reverse_append, List.reverse_replicate, List.foldl_append, hrep,
    foldl_pushSegment_of_no_dotdot b hdd, List.filter_eq_self.mpr, List.reverse_reverse]
  exact fun s hs => (hnames s (List.mem_reverse.mp hs)).1

theorem normalStack_location (p : String) :
    NormalStack (!isAbsolute p) ((location p).2.reverse) := by
  simp only [location, normalizeSegments, List.reverse_reverse]
  exact normalStack_foldl (fun _ => slash_not_mem_of_mem_splitOn) ⟨[], 0, rfl, by simp, fun _ => rfl⟩

/-! ## Locations -/

theorem normalizeSegments_location (p : String) :
    normalizeSegments (!isAbsolute p) (location p).2 = (location p).2 := by
  have h := foldl_reverse_of_normalStack (normalStack_location p)
  rw [List.reverse_reverse] at h
  rw [normalizeSegments, h, List.reverse_reverse]

theorem normalStack_of_suffix {b : Bool} {stack rest : List Segment} (hs : NormalStack b stack)
    (h : rest <:+ stack) : NormalStack b rest := by
  obtain ⟨names, k, rfl, hnames, hk⟩ := hs
  rw [List.suffix_iff_eq_drop, List.drop_append_eq_append_drop, List.drop_replicate] at h
  exact ⟨_, _, h, fun s hs => hnames s (List.mem_of_mem_drop hs), fun hb => by rw [hk hb, Nat.zero_sub]⟩

theorem normalizeSegments_take_location (p : String) (n : Nat) :
    normalizeSegments (!isAbsolute p) ((location p).2.take n) = (location p).2.take n := by
  have h := foldl_reverse_of_normalStack (normalStack_of_suffix (normalStack_location p)
    (List.reverse_suffix.mpr (List.take_prefix n _)))
  rw [List.reverse_reverse] at h
  rw [normalizeSegments, h, List.reverse_reverse]

theorem normalizeSegments_nil_cons (b : Bool) (segs : List Segment) :
    normalizeSegments b ([] :: segs) = normalizeSegments b segs := by
  simp [normalizeSegments, pushSegment]

theorem normalizeSegments_append_nil (b : Bool) (segs : List Segment) :
    normalizeSegments b (segs ++ [[]]) = normalizeSegments b segs := by
  simp [normalizeSegments, pushSegment]

theorem intercalate_cons_eq (s : Segment) (rest : List Segment) :
    ∃ t, ['/'].intercalate (s :: rest) = s ++ t := by
  cases rest with
  | nil => exact ⟨[], by simp [List.intercalate]⟩
  | cons x xs =>
    exact ⟨'/' :: (List.intersperse ['/'] (x :: xs)).flatten,
      by simp [List.intercalate, List.intersperse_cons_cons]⟩

theorem location_render {b : Bool} (t : Bool) {segs : List Segment} (hne : segs ≠ [])
    (hslash : ∀ s ∈ segs, '/' ∉ s) (hname : ∀ s ∈ segs, s ≠ [])
    (hfix : normalizeSegments (!b) segs = segs) :
    location ⟨(if b then ['/'] else []) ++ ['/'].intercalate segs ++ (if t then ['/'] else [])⟩ =
      (b, segs) := by
  have hsplit : (['/'].intercalate segs).splitOn '/' = segs :=
    List.splitOn_intercalate segs '/' hslash hne
  have habs : isAbsolute ⟨(if b then ['/'] else []) ++ ['/'].intercalate segs ++
      (if t then ['/'] else [])⟩ = b := by
    cases b
    · obtain ⟨s, rest, rfl⟩ := List.exists_cons_of_ne_nil hne
      obtain ⟨u, hu⟩ := intercalate_cons_eq s rest
      obtain ⟨c, cs, rfl⟩ := List.exists_cons_of_ne_nil (hname s (by simp))
      have hc : c ≠ '/' := fun h => hslash (c :: cs) (List.mem_cons_self _ _) (by simp [h])
      simp [isAbsolute, hu, hc]
    · simp [isAbsolute]
  simp only [location, habs, Prod.mk.injEq, true_and]
  cases b <;> cases t <;>
    simp only [if_true, if_false, Bool.false_eq_true, List.nil_append, List.append_nil,
      List.singleton_append, splitOn_slash_cons, splitOn_append_slash, List.splitOn_nil, hsplit,
      normalizeSegments_nil_cons, normalizeSegments_append_nil, Bool.not_true, Bool.not_false]
      at hfix ⊢ <;> exact hfix

theorem mem_location {p : String} {s : Segment} (h : s ∈ (location p).2) :
    (isName s = true ∧ '/' ∉ s) ∨ s = dotdot := by
  obtain ⟨names, k, hst, hnames, -⟩ := normalStack_location p
  have : s ∈ names ++ List.replicate k dotdot := hst ▸ List.mem_reverse.mpr h
  rcases List.mem_append.mp this with hs | hs
  · exact .inl (hnames s hs)
  · exact .inr (List.eq_of_mem_replicate hs)

theorem slash_not_mem_of_mem_location {p : String} {s : Segment} (h : s ∈ (location p).2) :
    '/' ∉ s := by
  rcases mem_location h with h | rfl
  · exact h.2
  · decide

theorem ne_nil_of_mem_location {p : String} {s : Segment} (h : s ∈ (location p).2) : s ≠ [] := by
  rcases mem_location h with h | rfl
  · rintro rfl; simp [isName] at h
  · decide

theorem location_normalize (p : String) : location (normalize p) = location p := by
  by_cases hp : p = ""
  · subst hp; rfl
  by_cases hs : (location p).2 = []
  · have hloc : location p = (isAbsolute p, []) := Prod.ext rfl hs
    simp only [normalize, hp, hs, if_false, if_true, hloc]
    cases isAbsolute p <;> simp only [if_true, Bool.false_eq_true, if_false] <;> (try split) <;> rfl
  · simp only [normalize, hp, hs, if_false]
    refine (location_render _ hs (fun _ => slash_not_mem_of_mem_location) (fun s h => ?_)
      (normalizeSegments_location p)).trans rfl
    rcases mem_location h with h | rfl
    · rintro rfl; simp [isName] at h
    · decide

theorem normalize_ne_empty (p : String) : normalize p ≠ "" := by
  by_cases hp : p = ""
  · simp [normalize, hp]
  by_cases hs : (location p).2 = []
  · simp only [normalize, hp, hs, if_false, if_true]
    split_ifs <;> decide
  · obtain ⟨s, rest, hsr⟩ := List.exists_cons_of_ne_nil hs
    obtain ⟨u, hu⟩ := intercalate_cons_eq s rest
    have hs' : s ≠ [] := by
      rcases mem_location (p := p) (s := s) (by rw [hsr]; simp) with h | rfl
      · rintro rfl; simp [isName] at h
      · decide
    simp only [normalize, hp, hs, if_false]
    intro h
    have := congrArg String.data h
    simp [hsr, hu, hs'] at this

/-! ## Joining -/

theorem data_ne_nil {a : String} (h : a ≠ "") : a.data ≠ [] := fun h' => h (String.ext h')

theorem join_ne_empty (parts : List String) : join parts ≠ "" := by
  unfold join
  split
  · decide
  · exact normalize_ne_empty _

theorem join_pair {a b : String} (ha : a ≠ "") (hb : b ≠ "") : join [a, b] = normalize (a ++ "/" ++ b) := by
  simp [join, ha, hb]

theorem location_append_slash {a : String} (b : String) (ha : a ≠ "") :
    location (a ++ "/" ++ b) =
      (isAbsolute a, normalizeSegments (!isAbsolute a) (a.data.splitOn '/' ++ b.data.splitOn '/')) := by
  obtain ⟨c, cs, hc⟩ := List.exists_cons_of_ne_nil (data_ne_nil ha)
  have habs : isAbsolute (a ++ "/" ++ b) = isAbsolute a := by
    simp [isAbsolute, String.append, hc]
  have hd : (a ++ "/" ++ b).data = a.data ++ '/' :: b.data := by
    rw [show (a ++ "/" ++ b).data = (a.data ++ ['/']) ++ b.data from rfl, List.append_assoc]; rfl
  simp only [location, habs, hd, splitOn_append_slash]

theorem normalizeSegments_append_of_no_dotdot (b : Bool) (segs : List Segment) {more : List Segment}
    (h : dotdot ∉ more) :
    normalizeSegments b (segs ++ more) = normalizeSegments b segs ++ more.filter isName := by
  simp [normalizeSegments, List.foldl_append, foldl_pushSegment_of_no_dotdot b h]

theorem isWithin_join {base p : String} (hbase : base ≠ "") (hp : dotdot ∉ p.data.splitOn '/') :
    isWithin base (join [base, p]) := by
  by_cases hp' : p = ""
  · subst hp'
    have : join [base, ""] = normalize base := by simp [join, hbase]
    rw [isWithin, this, location_normalize]
    exact ⟨rfl, List.prefix_refl _⟩
  · rw [isWithin, join_pair hbase hp', location_normalize, location_append_slash _ hbase,
      normalizeSegments_append_of_no_dotdot _ _ hp]
    exact ⟨rfl, List.prefix_append _ _⟩

example : join ["/tmp/qverisbot-import-x", "agents/main/workspace"] =
    "/tmp/qverisbot-import-x/agents/main/workspace" := by decide
example : join ["/tmp/x", "../y/./z/"] = "/tmp/y/z/" := by decide

theorem location_join_name (base : String) {name : String} (hname : isName name.data = true)
    (hslash : '/' ∉ name.data) :
    location (join [base, name]) = ((location base).1, (location base).2 ++ [name.data]) := by
  have hsplit : name.data.splitOn '/' = [name.data] := by
    simpa [List.splitOn] using List.splitOnP_eq_single (· == '/') name.data
      (fun x hx hxe => hslash (by rw [beq_iff_eq] at hxe; exact hxe ▸ hx))
  have hne : name ≠ "" := by rintro rfl; simp [isName] at hname
  have hdd : dotdot ∉ name.data.splitOn '/' := by
    rw [hsplit, List.mem_singleton]; intro h; rw [← h] at hname; simp at hname
  by_cases hb : base = ""
  · subst hb
    have habs : isAbsolute name = false := by
      obtain ⟨c, cs, hc⟩ := List.exists_cons_of_ne_nil (data_ne_nil hne)
      have hc' : c ≠ '/' := by rintro rfl; simp [hc] at hslash
      simp [isAbsolute, hc, hc']
    have : join ["", name] = normalize name := by simp [join, hne]
    rw [this, location_normalize]
    simp [location, habs, hsplit, normalizeSegments, pushSegment_of_isName hname]
    constructor <;> rfl
  · rw [join_pair hb hne, location_normalize, location_append_slash _ hb,
      normalizeSegments_append_of_no_dotdot _ _ hdd, hsplit]
    simp [hname, location]

theorem isChildNamed_join_iff (base : String) {name : String} (hname : isName name.data = true) :
    isChildNamed base (join [base, name]) name ↔ '/' ∉ name.data := by
  constructor
  · intro h hs
    have hmem : name.data ∈ (location (join [base, name])).2 := by
      rw [isChildNamed] at h; rw [h]; simp
    exact slash_not_mem_of_mem_location hmem hs
  · exact location_join_name base hname

/-! ## Inside a directory -/

/-- A name `readdir` can list: one segment, neither `.` nor `..`. -/
def isEntryName (name : String) : Bool := isName name.data && decide ('/' ∉ name.data)

theorem isWithin_refl (p : String) : isWithin p p := ⟨rfl, List.prefix_refl _⟩

theorem isWithin_trans {a b c : String} (hab : isWithin a b) (hbc : isWithin b c) : isWithin a c :=
  ⟨hbc.1.trans hab.1, hab.2.trans hbc.2⟩

@[simp] theorem isWithin_normalize_iff {base p : String} :
    isWithin base (normalize p) ↔ isWithin base p := by
  simp only [isWithin, location_normalize]

@[simp] theorem normalize_isWithin_iff {base p : String} :
    isWithin (normalize base) p ↔ isWithin base p := by
  simp only [isWithin, location_normalize]

theorem isWithin_or_isWithin {a b k : String} (ha : isWithin a k) (hb : isWithin b k) :
    isWithin a b ∨ isWithin b a :=
  (List.prefix_or_prefix_of_prefix ha.2 hb.2).imp (fun h => ⟨hb.1.symm.trans ha.1, h⟩)
    (fun h => ⟨ha.1.symm.trans hb.1, h⟩)

theorem location_join_entryName (base : String) {name : String} (h : isEntryName name = true) :
    location (join [base, name]) = ((location base).1, (location base).2 ++ [name.data]) := by
  simp only [isEntryName, Bool.and_eq_true, decide_eq_true_eq] at h
  exact location_join_name base h.1 h.2

theorem isWithin_join_entryName (base : String) {name : String} (h : isEntryName name = true) :
    isWithin base (join [base, name]) := by
  rw [isWithin, location_join_entryName base h]
  exact ⟨rfl, List.prefix_append _ _⟩

theorem not_isWithin_of_isWithin_join {dir name k : String} (hn : isEntryName name = true)
    (hk : isWithin (join [dir, name]) k) : ¬ isWithin k dir := fun h => by
  have := (hk.2.trans h.2).length_le
  rw [location_join_entryName dir hn, List.length_append, List.length_singleton] at this
  omega

theorem apart_of_isWithin_sibling (dir : String) {a b k : String} (ha : isEntryName a = true)
    (hb : isEntryName b = true) (hab : a ≠ b) (hk : isWithin (join [dir, a]) k) :
    ¬ isWithin (join [dir, b]) k ∧ ¬ isWithin k (join [dir, b]) := by
  have hne : ¬ (location dir).2 ++ [a.data] <+: (location dir).2 ++ [b.data] := fun h =>
    hab (String.ext (List.singleton_inj.mp (((List.prefix_append_right_inj _).mp h).eq_of_length rfl)))
  rw [isWithin, location_join_entryName dir ha] at hk
  simp only [isWithin, location_join_entryName dir hb]
  exact ⟨fun h => hne (List.prefix_of_prefix_length_le hk.2 h.2 (by simp)),
    fun h => hne (hk.2.trans h.2)⟩

end QverisBot.Node
