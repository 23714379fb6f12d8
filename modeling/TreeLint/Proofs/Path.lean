import Mathlib.Data.String.Basic
import Mathlib.Data.List.Infix
import TreeLint.Path

/-!
Canonical paths stand for lists of names. What is done to the text of such a path is done to its
list of names: joining appends, the parent drops the last name, and to lie below is to extend.
-/
namespace TreeLint

/-- What stands between two separators holds none. -/
theorem forall_not_of_mem_splitOnP {α : Type} (p : α → Bool) (xs : List α) {piece : List α}
    (h : piece ∈ xs.splitOnP p) : ∀ x ∈ piece, p x = false := by
  induction xs generalizing piece with
  | nil =>
    obtain rfl : piece = [] := by simpa using h
    simp
  | cons x xs ih =>
    rw [List.splitOnP_cons_eq_if_modifyHead] at h
    split_ifs at h with hx
    · rcases List.mem_cons.mp h with rfl | h
      · simp
      · exact ih h
    · obtain ⟨first, others, hsplit⟩ := List.exists_cons_of_ne_nil (List.splitOnP_ne_nil p xs)
      rw [hsplit] at h ih
      rcases List.mem_cons.mp h with rfl | h
      · intro y hy
        rcases List.mem_cons.mp hy with rfl | hy
        · simpa using hx
        · exact ih (by simp) y hy
      · exact ih (List.mem_cons_of_mem first h)

theorem subset_of_mem_splitOnP {α : Type} {p : α → Bool} {xs piece : List α}
    (h : piece ∈ xs.splitOnP p) : piece ⊆ xs := by
  induction xs generalizing piece with
  | nil =>
    obtain rfl : piece = [] := by simpa using h
    exact List.Subset.refl _
  | cons x xs ih =>
    rw [List.splitOnP_cons_eq_if_modifyHead] at h
    split_ifs at h
    · rcases List.mem_cons.mp h with rfl | h
      · exact List.nil_subset _
      · exact List.subset_cons_of_subset x (ih h)
    · obtain ⟨first, others, hsplit⟩ := List.exists_cons_of_ne_nil (List.splitOnP_ne_nil p xs)
      rw [hsplit] at h ih
      rcases List.mem_cons.mp h with rfl | h
      · exact List.cons_subset_cons x (ih List.mem_cons_self)
      · exact List.subset_cons_of_subset x (ih (List.mem_cons_of_mem first h))

theorem splitOnP_intercalate {α : Type} {p : α → Bool} {sep : α} (hsep : p sep = true)
    {pieces : List (List α)} (h : ∀ piece ∈ pieces, ∀ x ∈ piece, p x = false)
    (hne : pieces ≠ []) : ([sep].intercalate pieces).splitOnP p = pieces := by
  induction pieces with
  | nil => exact absurd rfl hne
  | cons piece rest ih =>
    cases rest with
    | nil => simpa using List.splitOnP_eq_singleton (h piece (by simp))
    | cons next rest =>
      rw [List.intercalate_cons_cons, List.append_assoc, List.singleton_append,
        List.splitOnP_append_cons _ _ hsep, List.splitOnP_eq_singleton (h piece (by simp)),
        ih (fun l hl => h l (by simp [hl])) (by simp), List.singleton_append]

namespace ProjectPath

instance : IsStrictTotalOrder ProjectPath (· < ·) where
  irrefl p := lt_irrefl p.text
  trans _ _ _ := lt_trans (α := String)
  trichotomous p q hpq hqp := by
    have h : p.text = q.text := le_antisymm (not_lt.mp hqp) (not_lt.mp hpq)
    cases p
    cases q
    exact congrArg ProjectPath.mk h

/-- A text that can stand between the slashes of a canonical path. -/
structure IsName (s : String) : Prop where
  ne_empty : s ≠ ""
  ne_here : s ≠ "."
  ne_up : s ≠ ".."
  no_separator : ∀ c ∈ s.toList, isSeparator c = false

theorem IsName.no_slash {s : String} (h : IsName s) : '/' ∉ s.toList := by
  intro hmem
  simpa [isSeparator] using h.no_separator '/' hmem

theorem IsName.toList_ne_nil {s : String} (h : IsName s) : s.toList ≠ [] := by
  intro hnil
  exact h.ne_empty (String.toList_eq_nil_iff.mp hnil)

/-- A path that is written as names between single slashes. -/
def Canonical (p : ProjectPath) : Prop := ∃ names, (∀ n ∈ names, IsName n) ∧ p = ofSegments names

theorem canonical_ofSegments {names : List String} (h : ∀ n ∈ names, IsName n) :
    (ofSegments names).Canonical := ⟨names, h, rfl⟩

theorem text_ofSegments (names : List String) :
    (ofSegments names).text.toList = ['/'].intercalate (names.map String.toList) :=
  String.toList_intercalate

@[simp] theorem ofSegments_nil : ofSegments [] = root := by simp [ofSegments, root]

theorem isRoot_iff (p : ProjectPath) : p.isRoot = true ↔ p = root := by
  cases p
  simp [isRoot, root]

theorem splitOn_ofSegments {names : List String} (h : ∀ n ∈ names, IsName n) (hne : names ≠ []) :
    (ofSegments names).text.toList.splitOn '/' = names.map String.toList := by
  rw [text_ofSegments]
  apply List.splitOn_intercalate
  · intro l hl
    obtain ⟨n, hn, rfl⟩ := List.mem_map.mp hl
    exact (h n hn).no_slash
  · simpa using hne

/-- The names of a canonical path can be read off its text. -/
theorem segments_ofSegments {names : List String} (h : ∀ n ∈ names, IsName n) :
    (ofSegments names).segments = names := by
  by_cases hnil : names = []
  · simp [hnil, segments, root]
  have hkeep : (names.map String.toList).filter (· ≠ []) = names.map String.toList := by
    apply List.filter_eq_self.mpr
    intro l hl
    obtain ⟨n, hn, rfl⟩ := List.mem_map.mp hl
    simpa using (h n hn).ne_empty
  rw [segments, splitOn_ofSegments h hnil, hkeep, List.map_map]
  simp [Function.comp_def]

theorem ofSegments_inj {a b : List String} (ha : ∀ n ∈ a, IsName n) (hb : ∀ n ∈ b, IsName n)
    (h : ofSegments a = ofSegments b) : a = b := by
  rw [← segments_ofSegments ha, h, segments_ofSegments hb]

theorem ofSegments_eq_root_iff {names : List String} (h : ∀ n ∈ names, IsName n) :
    ofSegments names = root ↔ names = [] := by
  constructor
  · intro heq
    exact ofSegments_inj h (by simp) (by simpa using heq)
  · rintro rfl
    exact ofSegments_nil

theorem Canonical.isName {p : ProjectPath} (h : p.Canonical) : ∀ n ∈ p.segments, IsName n := by
  obtain ⟨names, hnames, rfl⟩ := h
  rwa [segments_ofSegments hnames]

theorem Canonical.ofSegments_segments {p : ProjectPath} (h : p.Canonical) :
    ofSegments p.segments = p := by
  obtain ⟨names, hnames, rfl⟩ := h
  rw [segments_ofSegments hnames]

theorem canonical_root : root.Canonical := ⟨[], by simp, by simp⟩

@[simp] theorem segments_root : root.segments = [] := by
  rw [← ofSegments_nil]
  exact segments_ofSegments (by simp)

theorem ofSegments_snoc {names : List String} (hne : names ≠ []) (n : String) :
    ofSegments (names ++ [n]) = ⟨(ofSegments names).text ++ "/" ++ n⟩ := by
  rw [ofSegments, String.intercalate_append_of_ne_nil hne (by simp), String.intercalate_singleton]
  rfl

theorem join_ofSegments {names : List String} (h : ∀ n ∈ names, IsName n) (n : String) :
    (ofSegments names).join n = ofSegments (names ++ [n]) := by
  by_cases hnil : names = []
  · subst hnil
    simp [join, isRoot, ofSegments]
  · have hroot : ¬(ofSegments names).isRoot = true := by
      rw [isRoot_iff, ofSegments_eq_root_iff h]
      exact hnil
    rw [ofSegments_snoc hnil, join, if_neg hroot]

theorem isName_snoc {names : List String} {n : String} (h : ∀ m ∈ names, IsName m)
    (hn : IsName n) : ∀ m ∈ names ++ [n], IsName m := by
  intro m hm
  rcases List.mem_append.mp hm with hm | hm
  · exact h m hm
  · rwa [List.mem_singleton.mp hm]

/-- Without a slash there is nothing before the last slash. -/
theorem splitLast_of_not_mem {cs : List Char} (h : '/' ∉ cs) : splitLast cs = (none, cs) := by
  induction cs with
  | nil => rfl
  | cons c cs ih =>
    simp only [List.mem_cons, not_or] at h
    simp [splitLast, ih h.2, Ne.symm h.1]

theorem splitLast_append (before : List Char) {after : List Char} (h : '/' ∉ after) :
    splitLast (before ++ '/' :: after) = (some before, after) := by
  induction before with
  | nil => simp [splitLast, splitLast_of_not_mem h]
  | cons c cs ih => simp [splitLast, ih]

theorem splitLast_ofSegments (names : List String) {n : String} (hn : IsName n) :
    splitLast (ofSegments (names ++ [n])).text.toList =
      (if names = [] then none else some (ofSegments names).text.toList, n.toList) := by
  by_cases hnil : names = []
  · subst hnil
    simpa [ofSegments] using splitLast_of_not_mem hn.no_slash
  · rw [if_neg hnil, ofSegments_snoc hnil]
    simpa using splitLast_append (ofSegments names).text.toList hn.no_slash

theorem parent_ofSegments (names : List String) {n : String} (hn : IsName n) :
    (ofSegments (names ++ [n])).parent = ofSegments names := by
  rw [parent, splitLast_ofSegments names hn]
  by_cases hnil : names = []
  · simp [hnil]
  · simp [hnil]

theorem fileName_ofSegments (names : List String) {n : String} (hn : IsName n) :
    (ofSegments (names ++ [n])).fileName = n := by
  simp [fileName, splitLast_ofSegments names hn]

@[simp] theorem parent_root : root.parent = root := by
  simp [parent, root, splitLast]

/-- The parent of a path drops its last name; the root lies in itself. -/
theorem Canonical.parent_eq {p : ProjectPath} (h : p.Canonical) :
    p.parent = ofSegments p.segments.dropLast := by
  obtain ⟨names, hnames, rfl⟩ := h
  rw [segments_ofSegments hnames]
  rcases List.eq_nil_or_concat' names with rfl | ⟨before, last, rfl⟩
  · simp
  · rw [List.dropLast_concat]
    exact parent_ofSegments before (hnames last (by simp))

theorem Canonical.segments_parent {p : ProjectPath} (h : p.Canonical) :
    p.parent.segments = p.segments.dropLast := by
  rw [h.parent_eq]
  exact segments_ofSegments fun n hn => h.isName n (List.mem_of_mem_dropLast hn)

theorem isPrefix_segments {p dir : ProjectPath}
    (h : dir.text.toList ++ ['/'] <+: p.text.toList) : dir.segments <+: p.segments := by
  obtain ⟨rest, hrest⟩ := h
  have htext : p.text.toList = dir.text.toList ++ '/' :: rest := by simpa using hrest.symm
  rw [segments, segments, htext, List.splitOn_append_cons_self, List.filter_append, List.map_append]
  exact List.prefix_append _ _

theorem isPrefix_of_startsWith {p dir : ProjectPath} (h : p.startsWith dir = true) :
    dir.segments <+: p.segments := by
  simp only [startsWith, Bool.or_eq_true, isRoot_iff, decide_eq_true_eq,
    List.isPrefixOf_iff_prefix] at h
  rcases h with (rfl | rfl) | h
  · simp
  · exact List.prefix_rfl
  · exact isPrefix_segments h

/-- To lie at or below a directory is to start with its names. -/
theorem startsWith_iff {p dir : ProjectPath} (hp : p.Canonical) (hdir : dir.Canonical) :
    p.startsWith dir = true ↔ dir.segments <+: p.segments := by
  refine ⟨isPrefix_of_startsWith, ?_⟩
  simp only [startsWith, Bool.or_eq_true, isRoot_iff, decide_eq_true_eq, List.isPrefixOf_iff_prefix]
  rintro ⟨rest, hrest⟩
  obtain ⟨names, hnames, rfl⟩ := hdir
  rw [segments_ofSegments hnames] at hrest
  have hpath : p = ofSegments (names ++ rest) := by rw [hrest, hp.ofSegments_segments]
  by_cases hnil : names = []
  · left; left
    simp [hnil]
  by_cases hrest' : rest = []
  · left; right
    simp [hpath, hrest']
  · right
    have htext := String.intercalate_append_of_ne_nil (s := "/") hnil hrest'
    exact ⟨("/".intercalate rest).toList, by simp [hpath, ofSegments, htext]⟩

theorem startsWith_trans {p q r : ProjectPath} (hpq : p.startsWith q = true)
    (hqr : q.startsWith r = true) : p.startsWith r = true := by
  simp only [startsWith, Bool.or_eq_true, isRoot_iff, decide_eq_true_eq,
    List.isPrefixOf_iff_prefix] at hpq hqr ⊢
  rcases hqr with (rfl | rfl) | hqr
  · exact Or.inl (Or.inl rfl)
  · exact hpq
  · rcases hpq with (rfl | rfl) | hpq
    · simp [root] at hqr
    · exact Or.inr hqr
    · exact Or.inr (hqr.trans ((List.prefix_append _ _).trans hpq))

theorem parts_no_separator {raw part : String} (h : part ∈ parts raw) :
    ∀ c ∈ part.toList, isSeparator c = false := by
  obtain ⟨cs, hcs, rfl⟩ := List.mem_map.mp h
  rw [String.toList_ofList]
  exact forall_not_of_mem_splitOnP isSeparator raw.toList hcs

/-- One step of a climb keeps a stack of names. -/
theorem step?_isName {stack stack' : List String} {part : String}
    (hstack : ∀ n ∈ stack, IsName n) (hpart : ∀ c ∈ part.toList, isSeparator c = false)
    (h : step? stack part = some stack') : ∀ n ∈ stack', IsName n := by
  unfold step? at h
  split_ifs at h with hskip hup
  · obtain rfl := Option.some.inj h
    exact hstack
  · cases stack with
    | nil => simp at h
    | cons top below =>
      obtain rfl := Option.some.inj h
      exact fun n hn => hstack n (List.mem_cons_of_mem top hn)
  · obtain rfl := Option.some.inj h
    rw [not_or] at hskip
    intro n hn
    rcases List.mem_cons.mp hn with rfl | hn
    · exact ⟨hskip.1, hskip.2, hup, hpart⟩
    · exact hstack n hn

theorem foldlM_step?_isName {segments stack stack' : List String}
    (hstack : ∀ n ∈ stack, IsName n)
    (hsegments : ∀ s ∈ segments, ∀ c ∈ s.toList, isSeparator c = false)
    (h : segments.foldlM step? stack = some stack') : ∀ n ∈ stack', IsName n := by
  induction segments generalizing stack with
  | nil =>
    obtain rfl : stack = stack' := by simpa using h
    exact hstack
  | cons s segments ih =>
    rw [List.foldlM_cons] at h
    obtain ⟨middle, hstep, hrest⟩ := Option.bind_eq_some_iff.mp h
    have hmiddle := step?_isName hstack (hsegments s (by simp)) hstep
    exact ih hmiddle (fun s hs => hsegments s (by simp [hs])) hrest

/-- Every path that a text stands for is canonical. -/
theorem canonical_of_normalize? {raw : String} {p : ProjectPath} (h : normalize? raw = some p) :
    p.Canonical := by
  obtain ⟨stack, hstack, rfl⟩ := Option.map_eq_some_iff.mp h
  have hnames := foldlM_step?_isName (by simp) (fun _ hs => parts_no_separator hs) hstack
  exact canonical_ofSegments fun n hn => hnames n (List.mem_reverse.mp hn)

theorem foldlM_step?_names {names : List String} (h : ∀ n ∈ names, IsName n)
    (stack : List String) : names.foldlM step? stack = some (names.reverse ++ stack) := by
  induction names generalizing stack with
  | nil => rfl
  | cons n names ih =>
    have hn := h n (by simp)
    have hstep : step? stack n = some (n :: stack) := by
      simp [step?, hn.ne_empty, hn.ne_here, hn.ne_up]
    rw [List.foldlM_cons, hstep]
    exact (ih (fun m hm => h m (by simp [hm])) (n :: stack)).trans (by simp)

/-- The parts of a canonical text are its names. -/
theorem parts_ofSegments {names : List String} (h : ∀ n ∈ names, IsName n) (hne : names ≠ []) :
    parts (ofSegments names).text = names := by
  rw [parts, text_ofSegments, splitOnP_intercalate rfl _ (by simpa using hne), List.map_map]
  · simp [Function.comp_def]
  · intro piece hpiece
    obtain ⟨n, hn, rfl⟩ := List.mem_map.mp hpiece
    exact (h n hn).no_separator

/-- A canonical text stays as it is. -/
theorem Canonical.normalize?_text {p : ProjectPath} (h : p.Canonical) :
    normalize? p.text = some p := by
  obtain ⟨names, hnames, rfl⟩ := h
  by_cases hnil : names = []
  · subst hnil
    rfl
  rw [normalize?, parts_ofSegments hnames hnil, foldlM_step?_names hnames]
  simp

/-- Each name takes up a character at least. -/
theorem length_le_text {names : List String} (h : ∀ n ∈ names, IsName n) :
    names.length ≤ (ofSegments names).text.toList.length := by
  rw [text_ofSegments]
  induction names with
  | nil => simp
  | cons n names ih =>
    have hn : 1 ≤ n.toList.length := List.length_pos_iff.mpr (h n (by simp)).toList_ne_nil
    have hrest := ih fun m hm => h m (by simp [hm])
    cases names with
    | nil => simpa using hn
    | cons m names =>
      simp only [List.map_cons, List.intercalate_cons_cons, List.length_append, List.length_cons]
        at hrest ⊢
      omega

theorem climb_ofSegments {before : List String} {last : String}
    (h : ∀ n ∈ before ++ [last], IsName n) {fuel : ℕ} (hfuel : before.length < fuel) :
    climb fuel (ofSegments (before ++ [last])) = (before.inits.map ofSegments).reverse := by
  induction fuel generalizing before last with
  | zero => simp at hfuel
  | succ fuel ih =>
    have hroot : ¬(ofSegments (before ++ [last])).isRoot = true := by
      rw [isRoot_iff, ofSegments_eq_root_iff h]
      simp
    rw [climb, if_neg hroot, parent_ofSegments before (h last (by simp))]
    rcases List.eq_nil_or_concat' before with rfl | ⟨above, n, rfl⟩
    · cases fuel <;> simp [climb, isRoot, root]
    · have hlength : above.length < fuel := by simpa using hfuel
      rw [ih (fun m hm => h m (List.mem_append_left _ hm)) hlength, List.inits_append]
      simp

/-- The directories above a path are those of which it keeps more names than they have, the longest
first. -/
theorem ancestors_ofSegments {before : List String} {last : String}
    (h : ∀ n ∈ before ++ [last], IsName n) :
    (ofSegments (before ++ [last])).ancestors = (before.inits.map ofSegments).reverse := by
  have hlength := length_le_text h
  rw [List.length_append, List.length_singleton] at hlength
  have hroot : ¬(ofSegments (before ++ [last])).isRoot = true := by
    rw [isRoot_iff, ofSegments_eq_root_iff h]
    simp
  rw [ancestors, if_neg hroot, climb_ofSegments h (by omega)]

theorem mem_ancestors {d p : ProjectPath} (hp : p.Canonical) :
    d ∈ p.ancestors ↔ ∃ above, above <+: p.segments.dropLast ∧ d = ofSegments above := by
  obtain ⟨names, hnames, rfl⟩ := hp
  rw [segments_ofSegments hnames]
  rcases List.eq_nil_or_concat' names with rfl | ⟨before, last, rfl⟩
  · simp [ancestors, isRoot_iff]
  · simp only [ancestors_ofSegments hnames, List.mem_reverse, List.mem_map, List.mem_inits,
      List.dropLast_concat, eq_comm]

@[simp] theorem parent_join (d : ProjectPath) {n : String} (h : '/' ∉ n.toList) :
    (d.join n).parent = d := by
  unfold join parent
  split_ifs with hroot
  · rw [splitLast_of_not_mem h]
    exact ((isRoot_iff d).mp hroot).symm
  · have hslash : "/".toList = ['/'] := rfl
    rw [String.toList_append, String.toList_append, hslash, List.append_assoc,
      List.singleton_append, splitLast_append _ h]
    simp

theorem fileName_join (d : ProjectPath) {n : String} (h : '/' ∉ n.toList) :
    (d.join n).fileName = n := by
  unfold join fileName
  split_ifs with hroot
  · simp [splitLast_of_not_mem h]
  · have hslash : "/".toList = ['/'] := rfl
    rw [String.toList_append, String.toList_append, hslash, List.append_assoc,
      List.singleton_append, splitLast_append _ h]
    simp

theorem join_ne_root (d : ProjectPath) {n : String} (h : n ≠ "") : d.join n ≠ root := by
  unfold join root
  split_ifs
  · simpa using h
  · simp

/-- A path other than the root is its name in its parent. -/
theorem Canonical.join_fileName {p : ProjectPath} (h : p.Canonical) (hroot : p ≠ root) :
    IsName p.fileName ∧ p.parent.join p.fileName = p := by
  obtain ⟨names, hnames, rfl⟩ := h
  rcases List.eq_nil_or_concat' names with rfl | ⟨before, last, rfl⟩
  · simp at hroot
  · have hlast := hnames last (by simp)
    rw [fileName_ofSegments before hlast, parent_ofSegments before hlast,
      join_ofSegments fun n hn => hnames n (by simp [hn])]
    exact ⟨hlast, rfl⟩

theorem append_lt_append_left_iff (before : List Char) {a b : List Char} :
    before ++ a < before ++ b ↔ a < b := by
  induction before with
  | nil => rfl
  | cons c before ih =>
    rw [List.cons_append, List.cons_append, List.cons_lt_cons_iff, ih]
    simp

/-- In one directory paths are in the order of their names. -/
theorem join_lt_join_iff (d : ProjectPath) (a b : String) : d.join a < d.join b ↔ a < b := by
  unfold join
  split_ifs
  · rfl
  · change d.text ++ "/" ++ a < d.text ++ "/" ++ b ↔ a < b
    simp only [String.lt_iff_toList_lt, String.toList_append, append_lt_append_left_iff]

/-- Going up from a path drops its last names. -/
theorem iterate_parent_ofSegments {names : List String} (h : ∀ n ∈ names, IsName n) (k : ℕ) :
    parent^[k] (ofSegments names) = ofSegments (names.take (names.length - k)) := by
  induction k generalizing names with
  | zero => simp
  | succ k ih =>
    rcases List.eq_nil_or_concat' names with rfl | ⟨before, last, rfl⟩
    · have hroot := ih (List.forall_mem_nil IsName)
      simpa using hroot
    · rw [Function.iterate_succ_apply, parent_ofSegments before (h last (by simp)),
        ih fun n hn => h n (by simp [hn])]
      congr 1
      rw [List.length_append, List.length_singleton, Nat.add_sub_add_right,
        List.take_append_of_le_length (by omega)]

/-- What lies above a path is reached by going up once or more. -/
theorem mem_ancestors_iff_parent {p : ProjectPath} (hp : p.Canonical) (d : ProjectPath) :
    d ∈ p.ancestors ↔ ∃ k, d = parent^[k + 1] p := by
  rw [mem_ancestors hp]
  obtain ⟨names, hnames, rfl⟩ := hp
  rw [segments_ofSegments hnames]
  constructor
  · rintro ⟨above, habove, rfl⟩
    have hlength := habove.length_le
    rw [List.length_dropLast] at hlength
    refine ⟨names.length - 1 - above.length, ?_⟩
    rw [iterate_parent_ofSegments hnames]
    have htake : above = names.take above.length := by
      rw [List.dropLast_eq_take] at habove
      exact List.prefix_iff_eq_take.mp (habove.trans (List.take_prefix _ _))
    rcases List.eq_nil_or_concat' names with rfl | ⟨before, last, rfl⟩
    · obtain rfl : above = [] := by simpa using htake
      simp
    · rw [List.length_append, List.length_singleton] at hlength ⊢
      have hleft : before.length + 1 - (before.length + 1 - 1 - above.length + 1) = above.length := by
        omega
      rw [hleft, ← htake]
  · rintro ⟨k, rfl⟩
    refine ⟨names.take (names.length - (k + 1)), ?_, iterate_parent_ofSegments hnames _⟩
    rw [List.dropLast_eq_take]
    exact List.take_prefix_take_left (by omega)

end ProjectPath
end TreeLint
