import TreeLint.Proofs.RelativePath

/-!
Texts and the paths that they lead to. A text leads to a path unless it climbs above the root
somewhere on its way, and each path is written in one way only, which leads to itself. A text that
is put behind another with a slash between them is followed from where the other leads.
-/
namespace TreeLint.ProjectPath

section Writing

/-- How a canonical path is written: without backslashes, and with single slashes between names. -/
structure Tidy (p : ProjectPath) : Prop where
  no_backslash : '\\' ∉ p.text.toList
  no_leading_slash : p.text.toList.head? ≠ some '/'
  pieces : p ≠ root → ∀ piece ∈ p.text.toList.splitOn '/',
    piece ≠ [] ∧ piece ≠ ['.'] ∧ piece ≠ ['.', '.']

theorem tidy_root : root.Tidy := by
  refine ⟨?_, ?_, fun h => absurd rfl h⟩ <;> simp [root]

/-- What stands in the text of a path and is no slash stands in a name. -/
theorem eq_slash_or_mem_of_mem_text {names : List String} {c : Char}
    (h : c ∈ (ofSegments names).text.toList) : c = '/' ∨ ∃ n ∈ names, c ∈ n.toList := by
  induction names using List.reverseRecOn with
  | nil => simp [root] at h
  | append_singleton names n ih =>
    by_cases hnil : names = []
    · subst hnil
      exact Or.inr ⟨n, by simp, by simpa [ofSegments] using h⟩
    · rw [ofSegments_snoc hnil, String.toList_append, String.toList_append] at h
      rcases List.mem_append.mp h with h | h
      · rcases List.mem_append.mp h with h | h
        · rcases ih h with hslash | ⟨m, hm, hc⟩
          · exact Or.inl hslash
          · exact Or.inr ⟨m, List.mem_append_left _ hm, hc⟩
        · exact Or.inl (by simpa using h)
      · exact Or.inr ⟨n, by simp, h⟩

/-- An empty piece stands before a leading slash. -/
theorem nil_mem_splitOn {cs : List Char} (h : cs.head? = some '/') : [] ∈ cs.splitOn '/' := by
  obtain ⟨rest, rfl⟩ := List.head?_eq_some_iff.mp h
  have hsplit : ('/' :: rest).splitOn '/' = [].splitOn '/' ++ rest.splitOn '/' :=
    List.splitOn_append_cons_self [] rest
  simp [hsplit]

theorem Canonical.tidy {p : ProjectPath} (h : p.Canonical) : p.Tidy := by
  by_cases hroot : p = root
  · rw [hroot]
    exact tidy_root
  obtain ⟨names, hnames, rfl⟩ := h
  have hne : names ≠ [] := fun hnil => hroot ((ofSegments_eq_root_iff hnames).mpr hnil)
  have hpieces : ∀ piece ∈ (ofSegments names).text.toList.splitOn '/',
      piece ≠ [] ∧ piece ≠ ['.'] ∧ piece ≠ ['.', '.'] := by
    rw [splitOn_ofSegments hnames hne]
    intro piece hpiece
    obtain ⟨n, hn, rfl⟩ := List.mem_map.mp hpiece
    have hname := hnames n hn
    exact ⟨hname.toList_ne_nil, fun heq => hname.ne_here (String.toList_inj.mp heq),
      fun heq => hname.ne_up (String.toList_inj.mp heq)⟩
  refine ⟨fun hmem => ?_, fun hslash => (hpieces [] (nil_mem_splitOn hslash)).1 rfl,
    fun _ => hpieces⟩
  rcases eq_slash_or_mem_of_mem_text hmem with hslash | ⟨n, hn, hc⟩
  · exact absurd hslash (by decide)
  · simpa [isSeparator] using (hnames n hn).no_separator '\\' hc

/-- The pieces of a tidy text are names, and the text is what they are joined to. -/
theorem Tidy.canonical {p : ProjectPath} (h : p.Tidy) : p.Canonical := by
  by_cases hroot : p = root
  · rw [hroot]
    exact canonical_root
  refine ⟨(p.text.toList.splitOn '/').map String.ofList, fun n hn => ?_, ?_⟩
  · obtain ⟨piece, hpiece, rfl⟩ := List.mem_map.mp hn
    obtain ⟨hempty, hhere, hup⟩ := h.pieces hroot piece hpiece
    have hseparator : ∀ c ∈ piece, isSeparator c = false := by
      intro c hc
      have hslash : (c == '/') = false := forall_not_of_mem_splitOnP _ _ hpiece c hc
      have hback : c ≠ '\\' := by
        rintro rfl
        exact h.no_backslash (subset_of_mem_splitOnP hpiece hc)
      simpa [isSeparator, hback] using hslash
    refine ⟨fun heq => hempty ?_, fun heq => hhere ?_, fun heq => hup ?_, by simpa using hseparator⟩
    · simpa using congrArg String.toList heq
    · simpa using congrArg String.toList heq
    · simpa using congrArg String.toList heq
  · have htext : p.text = (ofSegments ((p.text.toList.splitOn '/').map String.ofList)).text := by
      apply String.toList_inj.mp
      rw [text_ofSegments, List.map_map]
      simp [Function.comp_def, List.intercalate_splitOn]
    exact congrArg ProjectPath.mk htext

/-- The tidy texts are those that lead to the path with the same text. -/
theorem normalize?_text_iff (p : ProjectPath) : normalize? p.text = some p ↔ p.Tidy :=
  ⟨fun h => (canonical_of_normalize? h).tidy, fun h => h.canonical.normalize?_text⟩

end Writing

section Climbing

/-- Whether a part of a text leads down. -/
def leadsDown (part : String) : Bool := part ≠ "" && part ≠ "." && part ≠ ".."

/-- Somewhere on its way the text has climbed more levels than it has gone down. -/
def Escapes (raw : String) : Prop :=
  ∃ start, start <+: parts raw ∧ start.countP leadsDown < start.count ".."

/-- A way fails where it climbs more levels than lie above it: those of the directory that it starts
in, and those that it has gone down itself. -/
theorem follow?_eq_none_iff (names parts : List String) :
    follow? names parts = none ↔
      ∃ start, start <+: parts ∧ names.length + start.countP leadsDown < start.count ".." := by
  induction parts generalizing names with
  | nil => simp [follow?]
  | cons part parts ih =>
    -- no way fails before its first part
    have hcons : (∃ start, start <+: part :: parts ∧
          names.length + start.countP leadsDown < start.count "..") ↔
        ∃ start, start <+: parts ∧
          names.length + (part :: start).countP leadsDown < (part :: start).count ".." := by
      simp [List.prefix_cons_iff, or_and_right, exists_or]
    rw [hcons, follow?]
    split_ifs with hstay hup hroot
    · have hpart : leadsDown part = false ∧ part ≠ ".." := by
        rcases hstay with rfl | rfl <;> decide
      simp [ih, hpart.1, hpart.2]
    · subst hup hroot
      exact iff_of_true rfl ⟨[], List.nil_prefix, by decide⟩
    · subst hup
      have hlength : names.length = names.dropLast.length + 1 := by
        rw [List.length_dropLast, Nat.sub_add_cancel (List.length_pos_iff.mpr hroot)]
      rw [ih]
      refine exists_congr fun start => and_congr_right fun _ => ?_
      rw [List.countP_cons_of_neg (by decide), List.count_cons_self, hlength]
      omega
    · have hpart : leadsDown part = true := by simp_all [leadsDown]
      rw [ih]
      refine exists_congr fun start => and_congr_right fun _ => ?_
      rw [List.countP_cons_of_pos hpart, List.count_cons_of_ne hup, List.length_append,
        List.length_singleton]
      omega

theorem normalize?_eq_none_iff (raw : String) : normalize? raw = none ↔ Escapes raw := by
  rw [normalize?_eq, Option.map_eq_none_iff, follow?_eq_none_iff]
  simp [Escapes]

end Climbing

theorem normalize?_append (first second : String) :
    normalize? (first ++ "/" ++ second) =
      (normalize? first).bind fun p => p.joinRelative? second := by
  rw [normalize?_eq, normalize?_eq, parts_append, follow?_append]
  cases hfirst : follow? [] (parts first) with
  | none => rfl
  | some names =>
    have hnames := follow?_isName (by simp) (fun _ hpart => parts_no_separator hpart) hfirst
    exact (joinRelative?_ofSegments hnames second).symm

/-- What a text leads to is written tidily and leads to itself, as every path does that is written
tidily, and no other. A text leads nowhere exactly when it climbs above the root on its way. A text
that is put behind another is followed from where the other leads, and the two lead nowhere if the
other does. -/
theorem normalization_exact (first second : String) :
    (∀ p, normalize? first = some p → p.Tidy ∧ normalize? p.text = some p) ∧
    (∀ p : ProjectPath, normalize? p.text = some p ↔ p.Tidy) ∧
    (normalize? first = none ↔ Escapes first) ∧
    normalize? (first ++ "/" ++ second) =
      (normalize? first).bind fun p => p.joinRelative? second := by
  refine ⟨fun p hp => ?_, normalize?_text_iff, normalize?_eq_none_iff first,
    normalize?_append first second⟩
  have htidy := (canonical_of_normalize? hp).tidy
  exact ⟨htidy, (normalize?_text_iff p).mpr htidy⟩

/-- A text with a detour, and two that are put behind it: one climbs just to the root, the other
above it. -/
theorem normalization_exact_detour :
    normalize? "./src//a\\..\\b.ts" = some ⟨"src/b.ts"⟩ ∧
    Tidy ⟨"src/b.ts"⟩ ∧ normalize? "src/b.ts" = some ⟨"src/b.ts"⟩ ∧
    normalize? ("./src//a\\..\\b.ts" ++ "/" ++ "..\\../lib") = some ⟨"lib"⟩ ∧
    normalize? ("./src//a\\..\\b.ts" ++ "/" ++ "../../../lib") = none := by
  have hdetour : normalize? "./src//a\\..\\b.ts" = some ⟨"src/b.ts"⟩ := by decide
  obtain ⟨hwritten, -, -, hlib⟩ := normalization_exact "./src//a\\..\\b.ts" "..\\../lib"
  obtain ⟨-, -, -, habove⟩ := normalization_exact "./src//a\\..\\b.ts" "../../../lib"
  obtain ⟨htidy, hself⟩ := hwritten _ hdetour
  exact ⟨hdetour, htidy, hself, hlib.trans (by decide), habove.trans (by decide)⟩

end TreeLint.ProjectPath
