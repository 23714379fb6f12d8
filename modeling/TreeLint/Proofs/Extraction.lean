import TreeLint.Proofs.Ascending
import TreeLint.Proofs.SourceLines
import TreeLint.Proofs.StatementReading

/-!
What is found in a text of statements, one on a line. A scan for a construct comes to the word of
each statement of that construct, reads the statement, and finds nothing in between.
-/
namespace TreeLint.Import

open Reader

/-- A line with a statement on it or none, and perhaps with a comment behind. -/
structure SourceLine where
  statement : Option Statement
  gap : List Char
  comment : Option (List Char)
  blank : ∀ c ∈ gap, Unicode.isSpace c = true ∧ c ≠ '\n'
  oneLine : ∀ text ∈ comment, '\n' ∉ text

namespace SourceLine

/-- The line up to the comment. -/
def code (l : SourceLine) : List Char := (l.statement.elim [] Statement.chars) ++ l.gap

def chars (l : SourceLine) : List Char := l.code ++ l.comment.elim [] fun text => '/' :: '/' :: text

/-- The module that is named on it, if it is line `n`. -/
def edge? (l : SourceLine) (n : ℕ) : Option Edge :=
  l.statement.map fun s => ⟨s.specifier, n, s.form.kind⟩

end SourceLine

section Comments

/-- A piece of text in which no comment starts, whatever follows it. -/
def Uncut (piece : List Char) : Prop :=
  ∀ rest, stripLine (piece ++ rest) = piece ++ stripLine rest

theorem Uncut.append {piece piece' : List Char} (h : Uncut piece) (h' : Uncut piece') :
    Uncut (piece ++ piece') := by
  intro rest
  rw [List.append_assoc, h, h', List.append_assoc]

theorem uncut_of_no_comment {piece : List Char} (h : ¬['/', '/'] <:+: piece)
    (hlast : piece.getLast? ≠ some '/') : Uncut piece := by
  intro rest
  induction piece with
  | nil => rfl
  | cons c piece ih =>
    have hfirst : ∀ left, c = '/' → piece ++ rest = '/' :: left → False := by
      rintro left rfl hleft
      cases piece with
      | nil => exact hlast rfl
      | cons x piece =>
        obtain ⟨rfl, -⟩ := List.cons.inj hleft
        exact h (List.prefix_append ['/', '/'] piece).isInfix
    have hpiece : ¬['/', '/'] <:+: piece :=
      fun hwithin => h (hwithin.trans (List.suffix_cons _ _).isInfix)
    have hend : piece.getLast? ≠ some '/' := by
      intro hslash
      apply hlast
      rw [List.getLast?_cons, hslash]
      rfl
    rw [List.cons_append, stripLine, ih hpiece hend, List.cons_append]
    exact hfirst

theorem uncut_of_no_slash {piece : List Char} (h : '/' ∉ piece) : Uncut piece := by
  refine uncut_of_no_comment (fun hwithin => h (hwithin.subset (by simp))) fun hlast => ?_
  exact h (List.mem_of_getLast? hlast)

theorem Plain.uncut {text : List Char} (h : Plain text) : Uncut text :=
  uncut_of_no_slash fun hmem => absurd (List.all_eq_true.mp h _ hmem) (by decide)

theorem Quotation.uncut (q : Quotation) : Uncut q.chars := by
  obtain ⟨-, -, -, hquote⟩ := q.quote_apart
  have hopening : Uncut [q.quote] := uncut_of_no_slash (by simpa using hquote.symm)
  have hrest : Uncut (q.specifier ++ [q.quote]) := by
    refine uncut_of_no_comment (fun hwithin => q.no_comment ?_) (by simpa using hquote)
    exact within_of_concat (by simp) (by simpa using hquote) hwithin
  exact hopening.append hrest

theorem Statement.uncut (s : Statement) : Uncut s.chars := by
  have hclause := s.form.construct.plain_word.append s.form.plain_clause
  have hcore : Uncut s.core :=
    (hclause.uncut.append s.quotation.uncut).append s.form.plain_close.uncut
  exact (s.form.plain_lead.uncut.append hcore).append (uncut_of_no_slash (by decide))

theorem SourceLine.uncut_code (l : SourceLine) : Uncut l.code := by
  have hstatement : Uncut (l.statement.elim [] Statement.chars) := by
    cases l.statement with
    | none => exact fun _ => rfl
    | some s => exact s.uncut
  refine hstatement.append (uncut_of_no_slash fun hslash => ?_)
  exact absurd (l.blank _ hslash).1 (by decide)

theorem SourceLine.stripLine_chars (l : SourceLine) : stripLine l.chars = l.code := by
  have hcomment : stripLine (l.comment.elim [] fun text => '/' :: '/' :: text) = [] := by
    cases l.comment <;> rfl
  rw [chars, l.uncut_code, hcomment, List.append_nil]

end Comments

section Breaks

theorem Plain.no_break {text : List Char} (h : Plain text) : '\n' ∉ text :=
  fun hmem => absurd (List.all_eq_true.mp h _ hmem) (by decide)

theorem Quotation.no_break (q : Quotation) : '\n' ∉ q.chars := by
  intro hbreak
  simp only [chars, List.mem_cons, List.mem_append, List.not_mem_nil, or_false] at hbreak
  rcases hbreak with hquote | hmem | hquote
  · exact isQuote_ne_break q.quotes hquote.symm
  · exact absurd (q.allowed _ hmem) (by decide)
  · exact isQuote_ne_break q.quotes hquote.symm

theorem Statement.no_break (s : Statement) : '\n' ∉ s.chars := by
  have hsemicolon : '\n' ≠ ';' := by decide
  simp only [chars, core, List.mem_append, List.mem_singleton, not_or]
  exact ⟨⟨s.form.plain_lead.no_break, ⟨⟨s.form.construct.plain_word.no_break,
    s.form.plain_clause.no_break⟩, s.quotation.no_break⟩, s.form.plain_close.no_break⟩, hsemicolon⟩

theorem SourceLine.no_break_code (l : SourceLine) : '\n' ∉ l.code := by
  rw [code, List.mem_append, not_or]
  refine ⟨?_, fun hbreak => (l.blank _ hbreak).2 rfl⟩
  cases l.statement with
  | none => exact List.not_mem_nil
  | some s => exact s.no_break

theorem SourceLine.no_break (l : SourceLine) : '\n' ∉ l.chars := by
  rw [chars, List.mem_append, not_or]
  refine ⟨l.no_break_code, ?_⟩
  cases hcomment : l.comment with
  | none => exact List.not_mem_nil
  | some text => simpa using l.oneLine text hcomment

/-- When comments are taken off some lines, the code of each is left. -/
theorem stripComments_lines (lines : List SourceLine) :
    (stripComments (String.ofList (['\n'].intercalate (lines.map SourceLine.chars)))).toList =
      ['\n'].intercalate (lines.map SourceLine.code) := by
  cases lines with
  | nil => rfl
  | cons l ls =>
    have hsplit : (['\n'].intercalate ((l :: ls).map SourceLine.chars)).splitOn '\n' =
        (l :: ls).map SourceLine.chars := by
      refine List.splitOn_intercalate _ (fun line hline => ?_) (by simp)
      obtain ⟨l, -, rfl⟩ := List.mem_map.mp hline
      exact l.no_break
    rw [stripComments, String.toList_ofList, String.toList_ofList, hsplit, List.map_map]
    simp [Function.comp_def, SourceLine.stripLine_chars]

end Breaks

section Scan

variable {α : Type} {reader : Reader α} {offset : ℕ} {before : Option Char} {c : Char}
  {rest : List Char}

theorem scan_of_none (h : reader.first? ⟨before, c :: rest⟩ = none) :
    scan reader 0 offset before (c :: rest) = scan reader 0 (offset + 1) (some c) rest := by
  rw [scan, h]

theorem scan_of_some {found : α} {stop : Cursor}
    (h : reader.first? ⟨before, c :: rest⟩ = some (found, stop)) :
    scan reader 0 offset before (c :: rest) = (offset, found) ::
      scan reader (rest.length - stop.rest.length) (offset + 1) (some c) rest := by
  rw [scan, h]

theorem or_getLast?_cons (c : Char) (piece : List Char) (before : Option Char) :
    piece.getLast?.or (some c) = (c :: piece).getLast?.or before := by
  rw [List.getLast?_cons]
  cases piece.getLast? <;> rfl

/-- What belongs to a find is passed over. -/
theorem scan_passed (passed : List Char) :
    scan reader passed.length offset before (passed ++ rest) =
      scan reader 0 (offset + passed.length) (passed.getLast?.or before) rest := by
  induction passed generalizing offset before with
  | nil => rfl
  | cons c passed ih =>
    rw [List.cons_append, List.length_cons, scan, ih, or_getLast?_cons, Nat.add_right_comm]
    rfl

/-- Nothing is found in a calm piece of text. -/
theorem scan_calm (k : Construct) {piece : List Char} (h : Calm piece) :
    scan k.reader 0 offset before (piece ++ rest) =
      scan k.reader 0 (offset + piece.length) (piece.getLast?.or before) rest := by
  induction piece generalizing offset before with
  | nil => rfl
  | cons c piece ih =>
    have hnone : k.reader.first? ⟨before, c :: (piece ++ rest)⟩ = none :=
      Construct.first?_eq_none (h k (c :: piece) rest (List.suffix_refl _) (by simp))
    rw [List.cons_append, scan_of_none hnone, ih (h.of_suffix (List.suffix_cons c piece)),
      or_getLast?_cons, List.length_cons, Nat.add_right_comm]
    rfl

theorem scan_core (k : Construct) (s : Statement) (hbefore : isWord? before = false) :
    scan k.reader 0 offset before (s.core ++ rest) =
      (if s.form.construct = k then [(offset, s.form.kind, s.specifier)] else []) ++
        scan k.reader 0 (offset + s.core.length) (s.core.getLast?.or before) rest := by
  obtain ⟨c, tail, hcore, hcalm⟩ := s.core_eq_cons
  have hend : scan k.reader 0 (offset + 1 + tail.length) (tail.getLast?.or (some c)) rest =
      scan k.reader 0 (offset + s.core.length) (s.core.getLast?.or before) rest := by
    rw [hcore, or_getLast?_cons, List.length_cons, Nat.add_right_comm]
    rfl
  split_ifs with hk
  · -- the find ends where the statement does, so all but its first character is passed over
    obtain ⟨last, hfirst⟩ := s.prefers hbefore rest
    rw [hk, hcore, List.cons_append] at hfirst
    have hskip : (tail ++ rest).length - rest.length = tail.length := by simp
    rw [← hend, hcore, List.cons_append, scan_of_some hfirst, hskip, scan_passed]
    rfl
  · have hnone : k.reader.first? ⟨before, s.core ++ rest⟩ = none :=
      Construct.first?_eq_none fun hopens => hk (s.construct_of_opens hopens).symm
    rw [hcore, List.cons_append] at hnone
    rw [← hend, hcore, List.cons_append, scan_of_none hnone, scan_calm k hcalm]
    rfl

/-- No word ends where the word of a statement starts. -/
theorem Form.isWord?_lead (f : Form) (hbefore : isWord? before = false) :
    isWord? (f.lead.getLast?.or before) = false := by
  cases f with
  | importCall n | requireCall n =>
    change isWord? (("const ".toList ++ n.chars ++ " = ".toList).getLast?.or before) = false
    rw [List.getLast?_append]
    rfl
  | _ => exact hbefore

/-- Behind a statement too nothing is found. -/
theorem scan_statement (k : Construct) (s : Statement) (hbefore : isWord? before = false) :
    scan k.reader 0 offset before (s.chars ++ rest) =
      (if s.form.construct = k then [(offset + s.form.lead.length, s.form.kind, s.specifier)]
        else []) ++
        scan k.reader 0 (offset + s.chars.length) (s.chars.getLast?.or before) rest := by
  have hsemicolon : Calm [';'] := calm_of_no_word (by decide) (by decide)
  rw [Statement.chars, List.append_assoc, List.append_assoc, scan_calm k s.form.calm_lead,
    scan_core k s (s.form.isWord?_lead hbefore), scan_calm k hsemicolon]
  simp only [List.getLast?_append, List.length_append, Nat.add_assoc, Option.or_assoc]

end Scan

/-- Where a statement stands: the offset of its word, and its line. -/
structure Place where
  start : ℕ
  line : ℕ
  statement : Statement

namespace Place

/-- What is found there. -/
def found (p : Place) : ℕ × EdgeKind × String :=
  (p.start, p.statement.form.kind, p.statement.specifier)

def edge (p : Place) : Edge := ⟨p.statement.specifier, p.line, p.statement.form.kind⟩

end Place

def SourceLine.places (l : SourceLine) (offset line : ℕ) : List Place :=
  l.statement.toList.map fun s => ⟨offset + s.form.lead.length, line, s⟩

/-- Where the statements of some lines stand, if the first of them is line `line` and starts at
`offset`. -/
def places (offset line : ℕ) : List SourceLine → List Place
  | [] => []
  | l :: ls => l.places offset line ++ places (offset + l.code.length + 1) (line + 1) ls

section Places

variable {offset : ℕ} {before : Option Char} {rest : List Char}

theorem SourceLine.calm_gap (l : SourceLine) : Calm l.gap := by
  have halpha : ∀ c ∈ l.gap, c.isAlpha = false := by
    intro c hc
    by_contra h
    have hpart : isNamePart c = true := by
      rw [Bool.not_eq_false] at h
      simp [isNamePart, Char.isAlphanum, h]
    have hblank := (l.blank c hc).1
    rw [isSpace_of_isNamePart hpart] at hblank
    cases hblank
  refine calm_of_last (fun c hc => halpha c (List.mem_of_getLast? hc)) (Or.inl fun k hwithin => ?_)
  obtain ⟨c, word, hword⟩ := List.exists_cons_of_ne_nil k.word_ne_nil
  have hc : c ∈ k.word.toList := hword ▸ List.mem_cons_self
  have hletter := k.isAlpha_word c hc
  rw [halpha c (hwithin.subset hc)] at hletter
  cases hletter

theorem scan_code (k : Construct) (l : SourceLine) (line : ℕ) (hbefore : isWord? before = false) :
    scan k.reader 0 offset before (l.code ++ rest) =
      ((l.places offset line).filter (·.statement.form.construct = k)).map Place.found ++
        scan k.reader 0 (offset + l.code.length) (l.code.getLast?.or before) rest := by
  have hgap := l.calm_gap
  unfold SourceLine.code SourceLine.places
  cases l.statement with
  | none => exact scan_calm k hgap
  | some s =>
    change scan k.reader 0 offset before (s.chars ++ l.gap ++ rest) = _
    rw [List.append_assoc, scan_statement k s hbefore, scan_calm k hgap]
    by_cases hk : s.form.construct = k <;>
      simp [hk, Place.found, Nat.add_assoc, List.getLast?_append, Option.or_assoc]

theorem intercalate_code_cons (l : SourceLine) {ls : List SourceLine} (h : ls ≠ []) :
    ['\n'].intercalate ((l :: ls).map SourceLine.code) =
      l.code ++ (['\n'] ++ ['\n'].intercalate (ls.map SourceLine.code)) := by
  cases ls with
  | nil => exact absurd rfl h
  | cons l' ls => simp [List.intercalate]

/-- A scan for a construct finds the statements of that construct. -/
theorem scan_lines (k : Construct) (lines : List SourceLine) (line : ℕ)
    (hbefore : isWord? before = false) :
    scan k.reader 0 offset before (['\n'].intercalate (lines.map SourceLine.code)) =
      ((places offset line lines).filter (·.statement.form.construct = k)).map Place.found := by
  have hbreak : Calm ['\n'] := calm_of_no_word (by decide) (by decide)
  induction lines generalizing offset line before with
  | nil => rfl
  | cons l ls ih =>
    rw [places, List.filter_append, List.map_append]
    by_cases hls : ls = []
    · have hcode : scan k.reader 0 offset before (l.code ++ []) =
          ((l.places offset line).filter (·.statement.form.construct = k)).map Place.found ++ [] :=
        scan_code k l line hbefore
      subst hls
      simpa [List.intercalate, places] using hcode
    · rw [intercalate_code_cons l hls, scan_code k l line hbefore, scan_calm k hbreak]
      exact congrArg _ (ih (line + 1) rfl)

theorem SourceLine.start_of_mem_places {l : SourceLine} {line : ℕ} {p : Place}
    (h : p ∈ l.places offset line) :
    offset ≤ p.start ∧ p.start ≤ offset + l.code.length ∧ p.line = line := by
  obtain ⟨s, hs, rfl⟩ := List.mem_map.mp h
  have hlead : s.form.lead.length ≤ l.code.length := by
    rw [code, Option.mem_toList.mp hs]
    simp only [Option.elim_some, Statement.chars, List.length_append]
    omega
  exact ⟨Nat.le_add_right _ _, Nat.add_le_add_left hlead _, rfl⟩

theorem start_le_of_mem_places {offset line : ℕ} {lines : List SourceLine} {p : Place}
    (h : p ∈ places offset line lines) : offset ≤ p.start := by
  induction lines generalizing offset line with
  | nil => cases h
  | cons l ls ih =>
    rcases List.mem_append.mp h with h | h
    · exact (SourceLine.start_of_mem_places h).1
    · exact (ih h).trans' (by omega)

theorem places_ascending (offset line : ℕ) (lines : List SourceLine) :
    (places offset line lines).Pairwise (·.start < ·.start) := by
  induction lines generalizing offset line with
  | nil => exact List.Pairwise.nil
  | cons l ls ih =>
    refine List.pairwise_append.mpr ⟨?_, ih _ _, fun p hp p' hp' => ?_⟩
    · rw [SourceLine.places]
      cases l.statement <;> simp
    · have hfirst := SourceLine.start_of_mem_places hp
      have hlater := start_le_of_mem_places hp'
      omega

/-- A statement stands on the line that is told by the line breaks before. -/
theorem count_of_mem_places {offset line : ℕ} {lines : List SourceLine} {p : Place}
    (h : p ∈ places offset line lines) :
    line + ((['\n'].intercalate (lines.map SourceLine.code)).take (p.start - offset)).count '\n' =
      p.line := by
  induction lines generalizing offset line with
  | nil => cases h
  | cons l ls ih =>
    have hcode : l.code.count '\n' = 0 := List.count_eq_zero.mpr l.no_break_code
    rcases List.mem_append.mp h with h | h
    · obtain ⟨-, hend, rfl⟩ := SourceLine.start_of_mem_places h
      obtain ⟨more, hmore⟩ : ∃ more, ['\n'].intercalate ((l :: ls).map SourceLine.code) =
          l.code ++ more := by
        by_cases hls : ls = []
        · exact ⟨[], by simp [hls, List.intercalate]⟩
        · exact ⟨_, intercalate_code_cons l hls⟩
      have htake : (l.code ++ more).take (p.start - offset) = l.code.take (p.start - offset) :=
        List.take_append_of_le_length (by omega)
      have hcount := ((List.take_sublist (p.start - offset) l.code).count_le '\n')
      rw [hmore, htake]
      omega
    · have hls : ls ≠ [] := by
        rintro rfl
        cases h
      have hstart := start_le_of_mem_places h
      have hsplit : p.start - offset =
          l.code.length + ((p.start - (offset + l.code.length + 1)) + 1) := by omega
      rw [intercalate_code_cons l hls, hsplit, List.take_length_add_append, List.count_append,
        hcode, List.singleton_append, List.take_succ_cons, List.count_cons_self, ← ih h]
      omega

theorem map_edge_places (offset line : ℕ) (lines : List SourceLine) :
    (places offset line lines).map Place.edge =
      (lines.zipIdx line).filterMap fun (l, n) => l.edge? n := by
  induction lines generalizing offset line with
  | nil => rfl
  | cons l ls ih =>
    rw [places, List.map_append, ih, List.zipIdx_cons]
    cases hs : l.statement <;> simp [SourceLine.places, SourceLine.edge?, hs, Place.edge]

end Places

theorem finds_lines (lines : List SourceLine) :
    finds ⟨true, true, true⟩ (['\n'].intercalate (lines.map SourceLine.code)) =
      (places 0 1 lines).map Place.found := by
  refine finds_eq_of_perm ?_ (List.pairwise_map.mpr (places_ascending 0 1 lines))
  have hfound (k : Construct) :
      findAll k.reader (['\n'].intercalate (lines.map SourceLine.code)) =
        ((places 0 1 lines).filter (·.statement.form.construct = k)).map Place.found :=
    scan_lines k lines 1 rfl
  have hall : (places 0 1 lines).filter (·.statement.form.construct ∈ Construct.all) =
      places 0 1 lines :=
    List.filter_eq_self.mpr fun p _ => by cases p.statement.form.construct <;> decide
  simp only [hfound]
  rw [← List.map_flatMap]
  refine List.Perm.map _ ((Ascending.flatMap_filter_perm _ (places 0 1 lines) (by decide)).trans ?_)
  rw [hall]

/-- Of a text of such lines, one module is found for each statement, in order, with its line and the
kind of its form. Nothing else is found. -/
theorem edges_statements (lines : List SourceLine) :
    edges (String.ofList (['\n'].intercalate (lines.map SourceLine.chars))) ⟨true, true, true⟩ =
      (lines.zipIdx 1).filterMap fun (l, n) => l.edge? n := by
  rw [edges, stripComments_lines, finds_lines, ← map_edge_places 0 1, List.map_map]
  refine List.map_congr_left fun p hp => ?_
  have hcount := count_of_mem_places hp
  rw [Nat.sub_zero, Nat.add_comm] at hcount
  exact congrArg (Edge.mk _ · _) hcount

/-- The forms, spelled out. -/
example :
    let n : Binding := ⟨['n'], by decide, by decide, by decide⟩
    let m : Binding := ⟨['m', '2'], by decide, by decide, by decide⟩
    let q : Quotation := ⟨'"', ['.', '/', 'q'], by decide, by decide,
      List.all_eq_true.mp (by decide), by decide⟩
    let forms : List Form := [.importName n, .importAll n, .importList ⟨n, [m]⟩, .importBare,
      .importTypes ⟨n, []⟩, .exportAll, .exportAllAs n, .exportList ⟨n, [m]⟩, .exportTypes ⟨n, []⟩,
      .importCall n, .requireCall n]
    forms.map (fun f => String.ofList (Statement.chars ⟨f, q⟩)) =
      ["import n from \"./q\";", "import * as n from \"./q\";",
        "import \x7b n, m2 \x7d from \"./q\";", "import \"./q\";",
        "import type \x7b n \x7d from \"./q\";", "export * from \"./q\";",
        "export * as n from \"./q\";", "export \x7b n, m2 \x7d from \"./q\";",
        "export type \x7b n \x7d from \"./q\";", "const n = import(\"./q\");",
        "const n = require(\"./q\");"] := by decide

end TreeLint.Import
