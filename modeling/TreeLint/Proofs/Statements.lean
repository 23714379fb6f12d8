import TreeLint.Proofs.Readers

/-!
Statements in the forms in which modules are mostly named. At the word of a statement nothing opens
but the construct of its form, and elsewhere in it nothing opens at all.
-/
namespace TreeLint.Import

open Reader

def isNameStart (c : Char) : Bool := c.isAlpha || c = '_' || c = '$'

def isNamePart (c : Char) : Bool := c.isAlphanum || c = '_' || c = '$'

/-- Letters, digits, underscores and dollar signs, the first of which is no digit. -/
def isName : List Char → Bool
  | [] => false
  | c :: rest => isNameStart c && rest.all isNamePart

/-- A name that is not `type` and holds none of the words that modules are named with. -/
structure Binding where
  chars : List Char
  named : isName chars = true
  ne_type : chars ≠ ['t', 'y', 'p', 'e']
  no_word : ∀ word ∈ ["import", "export", "require"], ¬word.toList <:+: chars

/-- At least one name, in braces. -/
structure Bindings where
  first : Binding
  others : List Binding

namespace Bindings

def names (b : Bindings) : List Char :=
  b.first.chars ++ b.others.flatMap fun n => ", ".toList ++ n.chars

def chars (b : Bindings) : List Char := "\x7b ".toList ++ b.names ++ " \x7d".toList

end Bindings

def isSpecifierPart (c : Char) : Bool := c.isAlphanum || ['_', '@', '.', '/', '-'].contains c

/-- A specifier between two quotes of the same kind. -/
structure Quotation where
  quote : Char
  specifier : List Char
  quotes : isQuote quote = true
  ne_nil : specifier ≠ []
  allowed : ∀ c ∈ specifier, isSpecifierPart c = true
  no_comment : ¬['/', '/'] <:+: specifier

def Quotation.chars (q : Quotation) : List Char := q.quote :: (q.specifier ++ [q.quote])

/-- The forms of statements that name a module `Q`. -/
inductive Form
  /-- The statement `import N from Q;`. -/
  | importName (n : Binding)
  /-- The statement `import * as N from Q;`. -/
  | importAll (n : Binding)
  /-- The statement `import { N, ... } from Q;`. -/
  | importList (ns : Bindings)
  /-- The statement `import Q;`. -/
  | importBare
  /-- The statement `import type { N, ... } from Q;`. -/
  | importTypes (ns : Bindings)
  /-- The statement `export * from Q;`. -/
  | exportAll
  /-- The statement `export * as N from Q;`. -/
  | exportAllAs (n : Binding)
  /-- The statement `export { N, ... } from Q;`. -/
  | exportList (ns : Bindings)
  /-- The statement `export type { N, ... } from Q;`. -/
  | exportTypes (ns : Bindings)
  /-- The statement `const N = import(Q);`. -/
  | importCall (n : Binding)
  /-- The statement `const N = require(Q);`. -/
  | requireCall (n : Binding)

namespace Form

def construct : Form → Construct
  | .importName _ | .importAll _ | .importList _ | .importBare | .importTypes _ => .importStatement
  | .exportAll | .exportAllAs _ | .exportList _ | .exportTypes _ => .exportStatement
  | .importCall _ => .importCall
  | .requireCall _ => .requireCall

def kind : Form → EdgeKind
  | .importTypes _ | .exportTypes _ => .typeOnly
  | .importCall _ => .dynamic
  | .requireCall _ => .require
  | _ => .static

/-- What stands in front of the word. -/
def lead : Form → List Char
  | .importCall n | .requireCall n => "const ".toList ++ n.chars ++ " = ".toList
  | _ => []

/-- What a statement binds or passes on. -/
def bound : Form → List Char
  | .importName n => n.chars
  | .importAll n | .exportAllAs n => "* as ".toList ++ n.chars
  | .importList ns | .exportList ns => ns.chars
  | .importTypes ns | .exportTypes ns => "type ".toList ++ ns.chars
  | .exportAll => ['*']
  | .importBare | .importCall _ | .requireCall _ => []

/-- What stands between the word and the quotes. -/
def clause : Form → List Char
  | .importBare => [' ']
  | .importCall _ | .requireCall _ => ['(']
  | form => ' ' :: (form.bound ++ " from ".toList)

/-- What stands between the quotes and the semicolon. -/
def close : Form → List Char
  | .importCall _ | .requireCall _ => [')']
  | _ => []

theorem kind_mem_kinds (f : Form) : f.kind ∈ f.construct.kinds := by
  cases f with
  | importTypes _ | exportTypes _ => exact List.mem_cons_of_mem _ List.mem_cons_self
  | _ => exact List.mem_cons_self

theorem eq_of_call {f : Form} (h : f.construct = .importCall ∨ f.construct = .requireCall) :
    f.clause = ['('] ∧ f.close = [')'] := by
  cases f with
  | importCall _ | requireCall _ => exact ⟨rfl, rfl⟩
  | _ => rcases h with h | h <;> cases h

theorem close_of_statement {f : Form}
    (h : f.construct = .importStatement ∨ f.construct = .exportStatement) : f.close = [] := by
  cases f with
  | importCall _ | requireCall _ => rcases h with h | h <;> cases h
  | _ => rfl

end Form

/-- A statement in one of the forms. -/
structure Statement where
  form : Form
  quotation : Quotation

namespace Statement

def specifier (s : Statement) : String := String.ofList s.quotation.specifier

/-- What is read of a statement. -/
def core (s : Statement) : List Char :=
  s.form.construct.word.toList ++ s.form.clause ++ s.quotation.chars ++ s.form.close

def chars (s : Statement) : List Char := s.form.lead ++ s.core ++ [';']

end Statement

section Characters

theorem bounds_of_isAlphanum {c : Char} (h : c.isAlphanum = true) :
    48 ≤ c.toNat ∧ c.toNat ≤ 122 := by
  have hbounds {low high : Char} (hlow : low.val ≤ c.val) (hhigh : c.val ≤ high.val)
      (hfrom : 48 ≤ low.toNat) (hto : high.toNat ≤ 122) : 48 ≤ c.toNat ∧ c.toNat ≤ 122 :=
    ⟨hfrom.trans (UInt32.le_iff_toNat_le.mp hlow), (UInt32.le_iff_toNat_le.mp hhigh).trans hto⟩
  rcases Bool.or_eq_true_iff.mp h with hletter | hdigit
  · rcases Bool.or_eq_true_iff.mp hletter with hupper | hlower
    · obtain ⟨hlow, hhigh⟩ := of_decide_eq_true hupper
      exact hbounds hlow hhigh (by decide) (by decide)
    · obtain ⟨hlow, hhigh⟩ := Bool.and_eq_true_iff.mp hlower
      exact hbounds (of_decide_eq_true hlow) (of_decide_eq_true hhigh) (by decide) (by decide)
  · obtain ⟨hlow, hhigh⟩ := Bool.and_eq_true_iff.mp hdigit
    exact hbounds (of_decide_eq_true hlow) (of_decide_eq_true hhigh) (by decide) (by decide)

theorem isSpace_of_bounds {c : Char} (hlow : 33 ≤ c.toNat) (hhigh : c.toNat < 128) :
    Unicode.isSpace c = false := by
  have hblank : c ≠ ' ' := by
    rintro rfl
    exact absurd hlow (by decide)
  have hbreak : ¬c ≤ '\r' := by
    rw [Char.le_def, UInt32.le_iff_toNat_le, Nat.not_le]
    exact hlow.trans' (by decide)
  simp [Unicode.isSpace, hhigh, hblank, hbreak]

theorem isSpace_of_isNamePart {c : Char} (h : isNamePart c = true) : Unicode.isSpace c = false := by
  simp only [isNamePart, Bool.or_eq_true, decide_eq_true_eq] at h
  rcases h with (h | rfl) | rfl
  · obtain ⟨hlow, hhigh⟩ := bounds_of_isAlphanum h
    exact isSpace_of_bounds (by omega) (by omega)
  · rfl
  · rfl

theorem isSpace_of_isSpecifierPart {c : Char} (h : isSpecifierPart c = true) :
    Unicode.isSpace c = false := by
  rcases Bool.or_eq_true_iff.mp h with h | h
  · obtain ⟨hlow, hhigh⟩ := bounds_of_isAlphanum h
    exact isSpace_of_bounds (by omega) (by omega)
  · have hall : ['_', '@', '.', '/', '-'].all (!Unicode.isSpace ·) = true := by decide
    simpa using List.all_eq_true.mp hall c (List.contains_iff_mem.mp h)

theorem isWord_of_isNamePart {c : Char} (h : isNamePart c = true) :
    (Unicode.isWord c || c = '$') = true := by
  simp only [isNamePart, Bool.or_eq_true, decide_eq_true_eq] at h
  rcases h with (h | rfl) | rfl
  · obtain ⟨hlow, hhigh⟩ := bounds_of_isAlphanum h
    simp [Unicode.isWord, h, show c.toNat < 128 by omega]
  · rfl
  · rfl

theorem eq_of_isQuote {c : Char} (h : isQuote c = true) : c = '\'' ∨ c = '"' := by
  simpa [isQuote] using h

theorem Quotation.quote_apart (q : Quotation) : q.quote.isAlpha = false ∧
    Unicode.isSpace q.quote = false ∧ q.quote ≠ '(' ∧ q.quote ≠ '/' := by
  rcases eq_of_isQuote q.quotes with hquote | hquote <;> rw [hquote] <;> decide

theorem Binding.isNamePart_of_mem (n : Binding) : ∀ c ∈ n.chars, isNamePart c = true := by
  have hnamed := n.named
  cases hchars : n.chars with
  | nil => simp
  | cons c rest =>
    rw [hchars, isName, Bool.and_eq_true, List.all_eq_true] at hnamed
    refine List.forall_mem_cons.mpr ⟨?_, hnamed.2⟩
    have hstart := hnamed.1
    simp only [isNameStart, isNamePart, Char.isAlphanum, Bool.or_eq_true] at hstart ⊢
    tauto

theorem Binding.ne_nil (n : Binding) : n.chars ≠ [] := by
  intro hnil
  have hnamed := n.named
  rw [hnil] at hnamed
  cases hnamed

/-- A character that ends no clause, no comment and no line. -/
def isPlain (c : Char) : Bool := !(['\'', '"', ';', '/', '\n'].contains c)

theorem isPlain_of_isNamePart {c : Char} (h : isNamePart c = true) : isPlain c = true := by
  have hall : ['\'', '"', ';', '/', '\n'].all (!isNamePart ·) = true := by decide
  simp only [isPlain, Bool.not_eq_true', List.contains_eq_mem, decide_eq_false_iff_not]
  intro hmem
  have hnone := List.all_eq_true.mp hall c hmem
  rw [h] at hnone
  cases hnone

/-- A text of such characters. -/
def Plain (text : List Char) : Prop := text.all isPlain = true

instance (text : List Char) : Decidable (Plain text) :=
  inferInstanceAs (Decidable (text.all isPlain = true))

theorem Plain.append {text text' : List Char} (h : Plain text) (h' : Plain text') :
    Plain (text ++ text') := by
  rw [Plain, List.all_append, h, h']
  rfl

theorem Binding.plain (n : Binding) : Plain n.chars :=
  List.all_eq_true.mpr fun c hc => isPlain_of_isNamePart (n.isNamePart_of_mem c hc)

theorem Bindings.plain (ns : Bindings) : Plain ns.chars := by
  have hothers : Plain (ns.others.flatMap fun n => ", ".toList ++ n.chars) := by
    rw [Plain, List.all_flatMap, List.all_eq_true]
    have hcomma : Plain ", ".toList := by decide
    exact fun n _ => hcomma.append n.plain
  exact (Plain.append (by decide) (ns.first.plain.append hothers)).append (by decide)

theorem Form.plain_lead (f : Form) : Plain f.lead := by
  cases f with
  | importCall n | requireCall n => exact (Plain.append (by decide) n.plain).append (by decide)
  | _ => exact rfl

theorem Form.plain_clause (f : Form) : Plain f.clause := by
  have hbound : Plain f.bound := by
    cases f with
    | importName n => exact n.plain
    | importAll n | exportAllAs n => exact Plain.append (by decide) n.plain
    | importList ns | exportList ns => exact ns.plain
    | importTypes ns | exportTypes ns => exact Plain.append (by decide) ns.plain
    | exportAll | importBare | importCall _ | requireCall _ => exact rfl
  have hblank : Plain [' '] := by decide
  have hclause : Plain (' ' :: (f.bound ++ " from ".toList)) :=
    hblank.append (hbound.append (by decide))
  cases f with
  | importBare | importCall _ | requireCall _ => exact rfl
  | _ => exact hclause

theorem Form.plain_close (f : Form) : Plain f.close := by
  cases f <;> exact rfl

theorem Construct.plain_word (k : Construct) : Plain k.word.toList := by
  cases k <;> decide

end Characters

/-- No construct opens in a piece of text, whatever follows it. -/
def Calm (piece : List Char) : Prop :=
  ∀ (k : Construct) (suffix rest : List Char), suffix <:+ piece → suffix ≠ [] →
    ¬k.Opens (suffix ++ rest)

section Calm

theorem Construct.isAlpha_word (k : Construct) : ∀ c ∈ k.word.toList, c.isAlpha = true :=
  List.all_eq_true.mp (by cases k <;> decide)

theorem Construct.word_ne_nil (k : Construct) : k.word.toList ≠ [] := by
  cases k <;> decide

/-- Right after the word of a construct stands a blank or a bracket. -/
theorem Construct.Follows.exists_next {k : Construct} {text : List Char} (h : k.Follows text) :
    ∃ next rest, text = next :: rest ∧ (Unicode.isSpace next = true ∨ next = '(') := by
  cases k with
  | importStatement | exportStatement =>
    obtain ⟨next, rest, rfl, hnext⟩ := h
    exact ⟨next, rest, rfl, Or.inl hnext⟩
  | importCall | requireCall =>
    obtain ⟨blanks, rest, rfl, hblanks⟩ := h
    cases blanks with
    | nil => exact ⟨'(', rest, rfl, Or.inr rfl⟩
    | cons next blanks => exact ⟨next, _, rfl, Or.inl (hblanks next (by simp))⟩

/-- A text does not reach into the last character after it if that is none of its own. -/
theorem within_of_concat {xs ys : List Char} {c : Char} (hne : xs ≠ []) (hc : c ∉ xs)
    (h : xs <:+: ys ++ [c]) : xs <:+: ys := by
  rcases List.infix_concat_iff.mp h with hsuffix | hwithin
  · rcases List.suffix_concat_iff.mp hsuffix with hnil | ⟨start, rfl, -⟩
    · exact absurd hnil hne
    · exact absurd (by simp) hc
  · exact hwithin

theorem calm_nil : Calm [] := fun _ _ _ hsuffix hne => absurd (List.suffix_nil.mp hsuffix) hne

theorem Calm.of_suffix {piece suffix : List Char} (h : Calm piece) (hsuffix : suffix <:+ piece) :
    Calm suffix :=
  fun k last rest hlast hne => h k last rest (hlast.trans hsuffix) hne

theorem Calm.append {piece piece' : List Char} (h : Calm piece) (h' : Calm piece') :
    Calm (piece ++ piece') := by
  rintro k suffix rest ⟨before, hbefore⟩ hne
  rcases List.append_eq_append_iff.mp hbefore with ⟨left, rfl, rfl⟩ | ⟨left, rfl, rfl⟩
  · cases left with
    | nil => exact h' k piece' rest (List.suffix_refl _) (by simpa using hne)
    | cons c left =>
      rw [List.append_assoc]
      exact h k (c :: left) _ (List.suffix_append _ _) (by simp)
  · exact h' k suffix rest (List.suffix_append _ _) hne

/-- A piece of text that ends in no letter is calm, if it holds no word, or nothing in it may follow
one. -/
theorem calm_of_last {piece : List Char} (hlast : ∀ c ∈ piece.getLast?, c.isAlpha = false)
    (h : (∀ k : Construct, ¬k.word.toList <:+: piece) ∨
      ∀ x ∈ piece, Unicode.isSpace x = false ∧ x ≠ '(') : Calm piece := by
  intro k suffix rest hsuffix hne hopens
  obtain ⟨after, htext, hfollows⟩ := hopens
  obtain ⟨next, tail, rfl, hnext⟩ := hfollows.exists_next
  -- no word goes on behind the piece
  have hword : ¬suffix <+: k.word.toList := by
    intro hstarts
    obtain ⟨before, rfl⟩ := hsuffix
    have hend : suffix.getLast hne ∈ (before ++ suffix).getLast? := by
      simp [List.getLast?_append, List.getLast?_eq_some_getLast hne]
    have halpha := k.isAlpha_word _ (hstarts.subset (List.getLast_mem hne))
    rw [hlast _ hend] at halpha
    cases halpha
  rcases List.append_eq_append_iff.mp htext with ⟨middle, hleft, -⟩ | ⟨middle, rfl, hright⟩
  · exact hword ⟨middle, hleft.symm⟩
  · cases middle with
    | nil => exact hword (by simp)
    | cons x middle =>
      obtain ⟨rfl, -⟩ := List.cons.inj hright
      rcases h with h | h
      · exact h k ((List.prefix_append _ _).isInfix.trans hsuffix.isInfix)
      · obtain ⟨hspace, hbracket⟩ := h next (hsuffix.subset (by simp))
        rcases hnext with hnext | hnext
        · rw [hspace] at hnext
          cases hnext
        · exact hbracket hnext

theorem calm_of_no_word {piece : List Char} (hlast : piece.getLast?.all (!·.isAlpha) = true)
    (h : ∀ k ∈ Construct.all, ¬k.word.toList <:+: piece) : Calm piece := by
  refine calm_of_last (fun c hc => ?_) (Or.inl fun k => h k (by cases k <;> decide))
  rw [Option.mem_def.mp hc] at hlast
  simpa using hlast

theorem Binding.calm (n : Binding) {c : Char} (hc : c.isAlpha = false) : Calm (n.chars ++ [c]) := by
  refine calm_of_no_word (by simp [hc]) fun k _ hwithin => ?_
  have hmem : k.word ∈ ["import", "export", "require"] := by cases k <;> decide
  have hnone : c ∉ k.word.toList := by
    intro hword
    rw [k.isAlpha_word c hword] at hc
    cases hc
  exact n.no_word k.word hmem (within_of_concat k.word_ne_nil hnone hwithin)

theorem calm_names (others : List Binding) (first : Binding) :
    Calm (Bindings.names ⟨first, others⟩ ++ [' ']) := by
  induction others generalizing first with
  | nil => simpa [Bindings.names] using first.calm (c := ' ') (by decide)
  | cons n others ih =>
    have hfirst : Calm (first.chars ++ [',']) := first.calm (by decide)
    have hblank : Calm [' '] := calm_of_no_word (by decide) (by decide)
    simpa [Bindings.names] using (hfirst.append hblank).append (ih n)

theorem Bindings.calm (ns : Bindings) : Calm ns.chars := by
  have hopen : Calm "\x7b ".toList := calm_of_no_word (by decide) (by decide)
  have hclose : Calm ['\x7d'] := calm_of_no_word (by decide) (by decide)
  simpa [chars] using (hopen.append (calm_names ns.others ns.first)).append hclose

theorem Quotation.calm (q : Quotation) : Calm q.chars := by
  obtain ⟨halpha, hspace, hbracket, -⟩ := q.quote_apart
  refine calm_of_last (by simpa [chars, List.getLast?_cons] using halpha) (Or.inr fun x hx => ?_)
  simp only [chars, List.mem_cons, List.mem_append, List.not_mem_nil, or_false] at hx
  rcases hx with rfl | hx | rfl
  · exact ⟨hspace, hbracket⟩
  · refine ⟨isSpace_of_isSpecifierPart (q.allowed x hx), ?_⟩
    rintro rfl
    exact absurd (q.allowed _ hx) (by decide)
  · exact ⟨hspace, hbracket⟩

theorem Form.calm_lead (f : Form) : Calm f.lead := by
  have hconst : Calm "const ".toList := calm_of_no_word (by decide) (by decide)
  have hequals : Calm "= ".toList := calm_of_no_word (by decide) (by decide)
  cases f with
  | importCall n | requireCall n =>
    have hname : Calm (n.chars ++ ([' '] ++ "= ".toList)) := by
      rw [← List.append_assoc]
      exact (n.calm (by decide)).append hequals
    change Calm ("const ".toList ++ n.chars ++ ([' '] ++ "= ".toList))
    rw [List.append_assoc]
    exact hconst.append hname
  | _ => exact calm_nil

theorem Form.calm_bound (f : Form) : Calm (f.bound ++ [' ']) := by
  have hblank : Calm [' '] := calm_of_no_word (by decide) (by decide)
  have hstar : Calm "* ".toList := calm_of_no_word (by decide) (by decide)
  have has : Calm "* as ".toList := calm_of_no_word (by decide) (by decide)
  have htype : Calm "type ".toList := calm_of_no_word (by decide) (by decide)
  cases f with
  | importName n => exact n.calm (by decide)
  | importAll n | exportAllAs n => exact has.append (n.calm (by decide))
  | importList ns | exportList ns => exact ns.calm.append hblank
  | importTypes ns | exportTypes ns => exact (htype.append ns.calm).append hblank
  | exportAll => exact hstar
  | importBare | importCall _ | requireCall _ => exact hblank

/-- Nothing opens in a clause, nor in the word before it except at its start. -/
theorem Form.calm_clause (f : Form) : Calm (f.construct.word.toList.tail ++ f.clause) := by
  have hfrom : Calm "from ".toList := calm_of_no_word (by decide) (by decide)
  have hword (k : Construct) : Calm (k.word.toList.tail ++ [' ']) := by
    cases k <;> exact calm_of_no_word (by decide) (by decide)
  have hcall (k : Construct) : Calm (k.word.toList.tail ++ ['(']) := by
    cases k <;> exact calm_of_no_word (by decide) (by decide)
  have hclause : Calm (f.construct.word.toList.tail ++ ' ' :: (f.bound ++ " from ".toList)) := by
    simpa using ((hword _).append f.calm_bound).append hfrom
  cases f with
  | importBare => exact hword _
  | importCall _ | requireCall _ => exact hcall _
  | _ => exact hclause

/-- Nothing opens in what is read of a statement except at its start. -/
theorem Statement.core_eq_cons (s : Statement) : ∃ c tail, s.core = c :: tail ∧ Calm tail := by
  have hbracket : Calm [')'] := calm_of_no_word (by decide) (by decide)
  have hclose : Calm s.form.close := by
    cases s.form with
    | importCall _ | requireCall _ => exact hbracket
    | _ => exact calm_nil
  obtain ⟨c, word, hword⟩ := List.exists_cons_of_ne_nil s.form.construct.word_ne_nil
  have hclause := s.form.calm_clause
  rw [hword] at hclause
  refine ⟨c, word ++ s.form.clause ++ s.quotation.chars ++ s.form.close, ?_,
    (hclause.append s.quotation.calm).append hclose⟩
  rw [core, hword]
  rfl

end Calm

section Opening

theorem Binding.exists_first (n : Binding) :
    ∃ c rest, n.chars = c :: rest ∧ isNamePart c = true := by
  obtain ⟨c, rest, hchars⟩ := List.exists_cons_of_ne_nil n.ne_nil
  exact ⟨c, rest, hchars, n.isNamePart_of_mem c (by simp [hchars])⟩

/-- Where an import statement goes on, no bracket follows the word. -/
theorem Form.exists_next {f : Form} (hf : f.construct = .importStatement) (q : Quotation) :
    ∃ next rest, f.clause ++ q.chars = ' ' :: next :: rest ∧ Unicode.isSpace next = false ∧
      next ≠ '(' := by
  cases f with
  | importName n =>
    obtain ⟨c, rest, hchars, hc⟩ := n.exists_first
    refine ⟨c, rest ++ " from ".toList ++ q.chars, ?_, isSpace_of_isNamePart hc, ?_⟩
    · change ' ' :: (n.chars ++ " from ".toList) ++ q.chars = _
      rw [hchars]
      rfl
    · rintro rfl
      exact absurd hc (by decide)
  | importAll n => exact ⟨'*', _, rfl, by decide, by decide⟩
  | importList ns => exact ⟨'\x7b', _, rfl, by decide, by decide⟩
  | importBare =>
    obtain ⟨-, hspace, hbracket, -⟩ := q.quote_apart
    exact ⟨q.quote, _, rfl, hspace, hbracket⟩
  | importTypes ns => exact ⟨'t', _, rfl, by decide, by decide⟩
  | _ => cases hf

theorem Construct.eq_or_of_head {k k' : Construct}
    (h : k.word.toList.head? = k'.word.toList.head?) :
    k = k' ∨ (k = .importStatement ∧ k' = .importCall) ∨
      (k = .importCall ∧ k' = .importStatement) := by
  revert h
  cases k <;> cases k' <;> decide

/-- At the word of a statement nothing opens but the construct of its form. -/
theorem Statement.construct_of_opens {s : Statement} {k : Construct} {rest : List Char}
    (h : k.Opens (s.core ++ rest)) : k = s.form.construct := by
  obtain ⟨after, htext, hfollows⟩ := h
  simp only [core, List.append_assoc] at htext
  have hhead := congrArg List.head? htext
  rw [List.head?_append_of_ne_nil _ (Construct.word_ne_nil _),
    List.head?_append_of_ne_nil _ (Construct.word_ne_nil _)] at hhead
  rcases Construct.eq_or_of_head hhead.symm with hk | ⟨rfl, hk⟩ | ⟨rfl, hk⟩
  · exact hk
  · rw [hk] at htext
    obtain ⟨next, tail, rfl, hnext⟩ := hfollows
    rw [(Form.eq_of_call (Or.inl hk)).1] at htext
    obtain ⟨rfl, -⟩ := List.cons.inj (List.append_cancel_left htext)
    exact absurd hnext (by decide)
  · rw [hk] at htext
    obtain ⟨next, tail, hclause, hspace, hbracket⟩ := Form.exists_next hk s.quotation
    rw [← List.append_assoc s.form.clause, hclause] at htext
    obtain ⟨blanks, left, rfl, hblanks⟩ := hfollows
    have hrest := List.append_cancel_left htext
    match blanks with
    | [] => cases hrest
    | [_] => exact absurd (List.cons.inj (List.cons.inj hrest).2).1 hbracket
    | _ :: blank :: _ =>
      have hblank := hblanks blank (by simp)
      rw [← (List.cons.inj (List.cons.inj hrest).2).1, hspace] at hblank
      cases hblank

end Opening

end TreeLint.Import
