import TreeLint.Proofs.Finds
import TreeLint.Proofs.Path

/-!
Where the modules that a text names stand in it. Taking comments off keeps the lines of a text and
leaves of each line what stands in front of its first two slashes in a row. So what is found in the
rest stands on the same line of the text as it was, and not in a comment.
-/
namespace TreeLint

section Lines

theorem splitOnP_append_of_not {α : Type} {p : α → Bool} {piece : List α}
    (h : ∀ x ∈ piece, p x = false) (rest : List α) :
    (piece ++ rest).splitOnP p = (rest.splitOnP p).modifyHead (piece ++ ·) := by
  induction piece with
  | nil => exact (congrFun List.modifyHead_id _).symm
  | cons x piece ih =>
    obtain ⟨hx, hpiece⟩ := List.forall_mem_cons.mp h
    rw [List.cons_append, List.splitOnP_cons_eq_if_modifyHead, hx, ih hpiece, if_neg (by simp),
      List.modifyHead_modifyHead]
    rfl

/-- What stands in a text without a line break in it stands on the line that is told by the number
of line breaks before. -/
theorem exists_line_of_append (before : List Char) {piece : List Char} (h : '\n' ∉ piece)
    (after : List Char) :
    ∃ start stop, ((before ++ (piece ++ after)).splitOn '\n')[before.count '\n']? =
      some (start ++ (piece ++ stop)) := by
  unfold List.splitOn
  induction before with
  | nil =>
    have hpiece : ∀ x ∈ piece, (x == '\n') = false := by
      intro x hx
      rw [beq_eq_false_iff_ne]
      rintro rfl
      exact h hx
    obtain ⟨line, lines, hlines⟩ :=
      List.exists_cons_of_ne_nil (List.splitOnP_ne_nil (· == '\n') after)
    exact ⟨[], line, by simp [splitOnP_append_of_not hpiece, hlines]⟩
  | cons x before ih =>
    obtain ⟨start, stop, hline⟩ := ih
    rw [List.cons_append, List.splitOnP_cons_eq_if_modifyHead, List.count_cons]
    by_cases hx : x = '\n'
    · exact ⟨start, stop, by simpa [hx] using hline⟩
    · obtain ⟨line, lines, hlines⟩ :=
        List.exists_cons_of_ne_nil (List.splitOnP_ne_nil (· == '\n') (before ++ (piece ++ after)))
      rw [hlines] at hline ⊢
      cases hcount : before.count '\n' with
      | zero =>
        obtain rfl : line = start ++ (piece ++ stop) := by simpa [hcount] using hline
        exact ⟨x :: start, stop, by simp [hx]⟩
      | succ n => exact ⟨start, stop, by simpa [hx, hcount] using hline⟩

end Lines

namespace Import

theorem stripLine_isPrefix (line : List Char) : stripLine line <+: line := by
  fun_induction stripLine line with
  | case1 => exact List.nil_prefix
  | case2 c rest _ ih => exact List.cons_prefix_cons.mpr ⟨rfl, ih⟩
  | case3 => exact List.nil_prefix

/-- No comment starts in what is left of a line. -/
theorem length_stripLine_le {line code comment : List Char}
    (h : line = code ++ '/' :: '/' :: comment) : (stripLine line).length ≤ code.length := by
  fun_induction stripLine line generalizing code with
  | case1 => exact Nat.zero_le _
  | case2 c rest hfirst ih =>
    cases code with
    | nil => exact absurd h (by rintro ⟨⟩; exact hfirst comment rfl rfl)
    | cons x code =>
      obtain ⟨-, hrest⟩ := List.cons.inj h
      exact Nat.succ_le_succ (ih hrest)
  | case3 => exact Nat.zero_le _

theorem splitOn_stripComments (source : String) :
    (stripComments source).toList.splitOn '\n' = (source.toList.splitOn '\n').map stripLine := by
  rw [stripComments, String.toList_ofList]
  refine List.splitOn_intercalate _ (fun piece hpiece hbreak => ?_) (by simp [List.splitOn])
  obtain ⟨line, hline, rfl⟩ := List.mem_map.mp hpiece
  have hnone := forall_not_of_mem_splitOnP _ _ hline _ ((stripLine_isPrefix line).subset hbreak)
  simp at hnone

/-- The lines of a text are counted from one. -/
def lineAt? (source : String) : ℕ → Option (List Char)
  | 0 => none
  | n + 1 => (source.toList.splitOn '\n')[n]?

/-- Line `n` of a text has `piece` on it, in front of the first two slashes in a row. -/
def OnLine (source : String) (n : ℕ) (piece : List Char) : Prop :=
  ∃ start stop, lineAt? source n = some (start ++ piece ++ stop) ∧
    ∀ code comment, start ++ piece ++ stop = code ++ '/' :: '/' :: comment →
      (start ++ piece).length ≤ code.length

/-- What stands on a line of a text without comments stands on this line of the text with them. -/
theorem onLine_of_stripComments {source : String} {before piece : List Char} (after : List Char)
    (htext : (stripComments source).toList = before ++ (piece ++ after)) (hpiece : '\n' ∉ piece) :
    OnLine source (before.count '\n' + 1) piece := by
  obtain ⟨start, stop, hline⟩ := exists_line_of_append before hpiece after
  rw [← htext, splitOn_stripComments, List.getElem?_map, Option.map_eq_some_iff] at hline
  obtain ⟨line, hline, hstrip⟩ := hline
  obtain ⟨comment, hcomment⟩ := stripLine_isPrefix line
  have heq : line = start ++ piece ++ (stop ++ comment) := by
    rw [← hcomment, hstrip]
    simp only [List.append_assoc]
  refine ⟨start, stop ++ comment, by rw [← heq]; exact hline, fun code slashes hslashes => ?_⟩
  have hlength := length_stripLine_le (heq.trans hslashes)
  rw [hstrip, ← List.append_assoc, List.length_append] at hlength
  omega

/-- The words that a module is named with. -/
def EdgeKind.words : EdgeKind → List String
  | .static | .typeOnly => ["import", "export"]
  | .dynamic => ["import"]
  | .require => ["require"]

theorem Construct.word_mem_words {k : Construct} {kind : EdgeKind} (h : kind ∈ k.kinds) :
    k.word ∈ kind.words := by
  revert h
  cases k <;> cases kind <;> decide

theorem Construct.no_break_word (k : Construct) : '\n' ∉ k.word.toList := by
  cases k <;> decide

theorem isQuote_ne_break {c : Char} (h : isQuote c = true) : c ≠ '\n' := by
  rintro rfl
  exact absurd h (by decide)

/-- The modules that a text names are listed by lines. Each line has the word on it that the module
is named with, and on this line or further down the module stands between quotes. Neither is in a
comment. -/
theorem edges_on_lines (source : String) (o : Options) :
    ((edges source o).map (·.line)).Pairwise (· ≤ ·) ∧
    ∀ e ∈ edges source o,
      (∃ word ∈ e.kind.words, OnLine source e.line word.toList) ∧
      IsSpecifier e.specifier ∧
      ∃ n opening closing, e.line ≤ n ∧ isQuote opening = true ∧ isQuote closing = true ∧
        OnLine source n (opening :: (e.specifier.toList ++ [closing])) := by
  refine ⟨edges_sorted source o, fun e he => ?_⟩
  obtain ⟨start, hfound, hline⟩ := mem_edges.mp he
  obtain ⟨⟨k, hfound⟩, -⟩ := mem_finds.mp hfound
  obtain ⟨hkind, hspecifier, passed, rest, htext, rfl, hquotes⟩ := mem_findAll_reader hfound
  obtain ⟨between, opening, closing, after, hopening, hclosing, rfl⟩ := hquotes
  rw [Line.ofChar, htext, List.take_left] at hline
  have hword : OnLine source e.line k.word.toList := by
    rw [hline]
    exact onLine_of_stripComments _ htext k.no_break_word
  have hquoted : '\n' ∉ opening :: (e.specifier.toList ++ [closing]) := by
    simp only [List.mem_cons, List.mem_append, not_or, List.not_mem_nil, not_false_eq_true,
      and_true]
    exact ⟨(isQuote_ne_break hopening).symm, hspecifier.no_break, (isQuote_ne_break hclosing).symm⟩
  refine ⟨⟨k.word, k.word_mem_words hkind, hword⟩, hspecifier,
    (passed ++ (k.word.toList ++ between)).count '\n' + 1, opening, closing, ?_, hopening,
    hclosing, onLine_of_stripComments after ?_ hquoted⟩
  · rw [hline, List.count_append]
    omega
  · rw [htext]
    simp

end Import
end TreeLint
