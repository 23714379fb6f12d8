import TreeLint.Proofs.Statements

/-!
How statements are read. Of the ways to read a statement the preferred one goes through each of its
parts in order, and gives what the statement says.
-/
namespace TreeLint.Import

open Reader

section Reading

variable {before : Option Char} {text rest : List Char}

theorem isWord?_word (k : Construct) (rest : List Char) :
    isWord? (k.word.toList ++ rest).head? = true := by
  cases k <;> rfl

theorem prefers_blanks_nil (h : ∀ x ∈ text.head?, Unicode.isSpace x = false) :
    Prefers blanks before text () text :=
  prefers_many (List.forall_mem_nil _) h

theorem prefers_blanks (h : ∀ x ∈ text.head?, Unicode.isSpace x = false) :
    Prefers blanks before (' ' :: text) () text :=
  prefers_many (List.forall_mem_singleton.mpr (by decide)) h

theorem prefers_blanks1 (h : ∀ x ∈ text.head?, Unicode.isSpace x = false) :
    Prefers blanks1 before (' ' :: text) () text :=
  prefers_many1 (by decide) (List.forall_mem_nil _) h

/-- Nothing is read where a text that is looked for does not stand. -/
theorem text_bind_eq_nil {α : Type} {s : String} {f : Unit → Reader α} {c : Cursor}
    (h : ¬s.toList <+: c.rest) : (Reader.text s >>= f) c = [] := by
  rw [List.eq_nil_iff_forall_not_mem]
  rintro ⟨a, stop⟩ hread
  obtain ⟨_, between, htext, -⟩ := mem_bind.mp hread
  exact h ⟨between.rest, (mem_text htext).symm⟩

theorem Quotation.prefers (q : Quotation) (rest : List Char) :
    Prefers quoted before (q.chars ++ rest) (String.ofList q.specifier) rest := by
  have hspecifier : ∀ c ∈ q.specifier, isQuote c = false ∧ c ≠ '\n' := by
    intro c hc
    have hallowed := q.allowed c hc
    refine ⟨?_, ?_⟩
    · by_contra hquote
      rcases eq_of_isQuote (by simpa using hquote) with rfl | rfl <;>
        exact absurd hallowed (by decide)
    · rintro rfl
      exact absurd hallowed (by decide)
  simpa [chars] using prefers_quoted q.quotes q.quotes q.ne_nil hspecifier rest

theorem Quotation.isSpace_head (q : Quotation) (rest : List Char) :
    ∀ x ∈ (q.chars ++ rest).head?, Unicode.isSpace x = false := by
  intro x hx
  obtain rfl : q.quote = x := by simpa [chars] using hx
  exact q.quote_apart.2.1

theorem prefers_clause {cs : List Char} (hcs : Plain cs) (q : Quotation) (rest : List Char) :
    Prefers clause before (cs ++ (q.chars ++ rest)) cs (q.chars ++ rest) := by
  have hall : ∀ x ∈ cs, (!isQuote x && x != ';') = true := by
    intro x hx
    have hplain := List.all_eq_true.mp hcs x hx
    simp [isPlain, isQuote] at hplain ⊢
    tauto
  have hclause : (cs ++ (q.chars ++ rest)).takeWhile (fun x => !isQuote x && x != ';') = cs := by
    rw [List.takeWhile_append_of_pos hall]
    simp [Quotation.chars, q.quotes]
  refine ⟨cs.getLast?.or before, ?_⟩
  simp only [first?, clause, hclause, List.drop_left]
  rfl

theorem leadsOn_from (cs : List Char) : leadsOn (cs ++ " from ".toList) = true := by
  have hreverse : (cs ++ " from ".toList).reverse.dropWhile Unicode.isSpace =
      ['m', 'o', 'r', 'f', ' '] ++ cs.reverse := by
    rw [List.reverse_append]
    rfl
  rw [leadsOn, hreverse]
  rfl

theorem importKind?_static {bound : List Char}
    (hfirst : ∃ first others, bound = first :: others ∧ Unicode.isSpace first = false)
    (htype : ∀ next left, bound ++ " from ".toList = "type".toList ++ next :: left →
      Unicode.isSpace next = false) :
    importKind? (' ' :: (bound ++ " from ".toList)) = some .static := by
  have hleads : leadsOn (' ' :: (bound ++ " from ".toList)) = true := leadsOn_from (' ' :: bound)
  have hdrop : (' ' :: (bound ++ " from ".toList)).dropWhile Unicode.isSpace =
      bound ++ " from ".toList := by
    obtain ⟨first, others, rfl, hspace⟩ := hfirst
    exact (List.dropWhile_cons_of_pos rfl).trans (List.dropWhile_cons_of_neg (by simp [hspace]))
  generalize bound ++ " from ".toList = text at *
  have hmark : (text.take 4 == ['t', 'y', 'p', 'e'] &&
      (text.drop 4).head?.any Unicode.isSpace) = false := by
    rw [Bool.and_eq_false_imp]
    intro htake
    cases hleft : text.drop 4 with
    | nil => rfl
    | cons next left =>
      refine htype next left ?_
      rw [← List.take_append_drop 4 text, hleft, eq_of_beq htake]
      rfl
  have hblank : (' ' :: text).head?.any Unicode.isSpace = true := rfl
  simp only [importKind?, hdrop, hmark, hleads, hblank]
  rfl

/-- A name is not taken for the mark of a type. -/
theorem Binding.isSpace_of_type {n : Binding} {next : Char} {left : List Char}
    (h : n.chars ++ " from ".toList = "type".toList ++ next :: left) :
    Unicode.isSpace next = false := by
  rcases List.append_eq_append_iff.mp h with ⟨middle, htype, hfrom⟩ | ⟨middle, hname, hleft⟩
  · cases middle with
    | nil => exact absurd (by simpa using htype.symm) n.ne_type
    | cons c middle =>
      have hc : c = ' ' := (List.cons.inj hfrom).1.symm
      have hmem : c ∈ "type".toList := htype ▸ by simp
      exact absurd (hc ▸ hmem) (by decide)
  · cases middle with
    | nil => exact absurd (by simpa using hname) n.ne_type
    | cons c middle =>
      obtain ⟨rfl, -⟩ := List.cons.inj hleft
      exact isSpace_of_isNamePart (n.isNamePart_of_mem _ (by simp [hname]))

theorem importKind?_type (text : List Char) :
    importKind? (' ' :: ("type ".toList ++ text ++ " from ".toList)) = some .typeOnly := by
  have hleads : leadsOn (' ' :: (text ++ " from ".toList)) = true := leadsOn_from (' ' :: text)
  have hdrop : (' ' :: ("type ".toList ++ text ++ " from ".toList)).dropWhile Unicode.isSpace =
      ['t', 'y', 'p', 'e', ' '] ++ (text ++ " from ".toList) := by
    rw [List.append_assoc]
    rfl
  simp only [importKind?, hdrop]
  exact if_pos hleads

theorem Form.importKind?_clause {f : Form} (hf : f.construct = .importStatement) :
    importKind? f.clause = some f.kind := by
  cases f with
  | importName n =>
    obtain ⟨c, rest, hchars, hc⟩ := n.exists_first
    exact importKind?_static ⟨c, rest, hchars, isSpace_of_isNamePart hc⟩
      fun _ _ => n.isSpace_of_type
  | importAll n =>
    exact importKind?_static ⟨'*', _, rfl, rfl⟩ fun _ _ h =>
      absurd (List.cons.inj h).1 (by decide)
  | importList ns =>
    exact importKind?_static ⟨'\x7b', _, rfl, rfl⟩ fun _ _ h =>
      absurd (List.cons.inj h).1 (by decide)
  | importBare => rfl
  | importTypes ns => exact importKind?_type ns.chars
  | _ => cases hf

theorem prefers_importStatement {cs : List Char} {kind : EdgeKind} (hcs : Plain cs)
    (hkind : importKind? cs = some kind) (q : Quotation) (hbefore : isWord? before = false) :
    Prefers importStatement before ("import".toList ++ (cs ++ (q.chars ++ rest)))
      (kind, String.ofList q.specifier) rest := by
  refine (prefers_boundary hbefore (isWord?_word .importStatement _)).bind fun _ => ?_
  refine (prefers_text "import").bind fun _ => ?_
  refine (prefers_clause hcs q rest).bind fun _ => ?_
  rw [hkind]
  exact (prefers_ofOption kind).bind fun _ => (q.prefers rest).bind fun _ => prefers_pure _

theorem prefers_call {k : Construct} {kind : EdgeKind} (q : Quotation)
    (hbefore : isWord? before = false) :
    Prefers (call k.word kind) before (k.word.toList ++ '(' :: (q.chars ++ ')' :: rest))
      (kind, String.ofList q.specifier) rest := by
  refine (prefers_boundary hbefore (isWord?_word k _)).bind fun _ => ?_
  refine (prefers_text k.word).bind fun _ => ?_
  refine (prefers_blanks_nil (by simp; decide)).bind fun _ => ?_
  refine (prefers_text "(").bind fun _ => ?_
  refine (prefers_blanks_nil (q.isSpace_head _)).bind fun _ => ?_
  refine (q.prefers _).bind fun _ => ?_
  refine (prefers_blanks_nil (by simp; decide)).bind fun _ => ?_
  exact (prefers_text ")").bind fun _ => prefers_pure _

/-- Where the word `type` does not stand, more than types is passed on. -/
theorem prefers_typeMark_static (h : ¬"type".toList <+: text) :
    Prefers typeMark before text .static text :=
  Prefers.orElse_of_nil (text_bind_eq_nil h) (prefers_pure _)

theorem prefers_typeMark_typeOnly (h : ∀ x ∈ text.head?, Unicode.isSpace x = false) :
    Prefers typeMark before ("type".toList ++ ' ' :: text) .typeOnly text := by
  refine Prefers.orElse ?_
  exact (prefers_text "type").bind fun _ => (prefers_blanks1 h).bind fun _ => prefers_pure _

/-- After a star that is given no name, none is looked for. -/
theorem prefers_exported_all (rest : List Char) :
    Prefers exported before ('*' :: (" from ".toList ++ rest)) () (" from ".toList ++ rest) := by
  refine Prefers.orElse ((prefers_text "*").bind fun last => ?_)
  refine Prefers.orElse_of_nil ?_ (prefers_pure ())
  -- the blanks end before the letter `f`, which does not start the word `as`
  rw [List.eq_nil_iff_forall_not_mem]
  rintro ⟨_, stop⟩ hread
  obtain ⟨_, c₁, h₁, h⟩ := mem_bind.mp hread
  obtain ⟨_, c₂, h₂, h₁⟩ := mem_bind.mp h₁
  obtain ⟨blank, left, hblank, -, rfl⟩ := mem_char.mp h₂
  obtain ⟨passed, hpassed, hspace⟩ := mem_many h₁
  obtain ⟨_, c₃, h₃, -⟩ := mem_bind.mp h
  rw [mem_text h₃] at hpassed
  have hleft := (List.cons.inj hblank).2.trans hpassed
  cases passed with
  | nil => exact absurd (List.cons.inj hleft).1 (by decide)
  | cons x passed =>
    have hx : x = 'f' := (List.cons.inj hleft).1.symm
    exact absurd (hspace x (by simp)) (by rw [hx]; decide)

theorem prefers_exported_as (n : Binding) (rest : List Char) :
    Prefers exported before ("* as ".toList ++ (n.chars ++ (" from ".toList ++ rest))) ()
      (" from ".toList ++ rest) := by
  obtain ⟨c, others, hchars, hc⟩ := n.exists_first
  have hall : ∀ x ∈ n.chars, (Unicode.isWord x || x = '$') = true :=
    fun x hx => isWord_of_isNamePart (n.isNamePart_of_mem x hx)
  rw [hchars] at hall ⊢
  obtain ⟨hfirst, hothers⟩ := List.forall_mem_cons.mp hall
  change Prefers exported before
    ('*' :: ' ' :: 'a' :: 's' :: ' ' :: c :: (others ++ (" from ".toList ++ rest))) () _
  refine Prefers.orElse ((prefers_text "*").bind fun _ => Prefers.orElse ?_)
  refine (prefers_blanks1 (by simp; decide)).bind fun _ => ?_
  refine (prefers_text "as").bind fun _ => ?_
  refine (prefers_blanks1 (by simpa using isSpace_of_isNamePart hc)).bind fun _ => ?_
  exact prefers_many1 hfirst hothers (by simp; decide)

theorem Bindings.ne_brace (ns : Bindings) : ∀ x ∈ ns.names, x ≠ '\x7d' := by
  have hname (n : Binding) : ∀ x ∈ n.chars, x ≠ '\x7d' := by
    rintro x hx rfl
    exact absurd (n.isNamePart_of_mem _ hx) (by decide)
  intro x hx
  rcases List.mem_append.mp hx with hx | hx
  · exact hname ns.first x hx
  · obtain ⟨n, -, hx⟩ := List.mem_flatMap.mp hx
    rcases List.mem_append.mp hx with hx | hx
    · have hfixed : '\x7d' ∉ ", ".toList := by decide
      exact fun heq => hfixed (heq ▸ hx)
    · exact hname n x hx

theorem prefers_exported_list (ns : Bindings) (rest : List Char) :
    Prefers exported before (ns.chars ++ rest) () rest := by
  refine Prefers.orElse_of_nil (text_bind_eq_nil ?_) ?_
  · rintro ⟨_, h⟩
    exact absurd (List.cons.inj h).1 (by decide)
  · have hdrop : (' ' :: (ns.names ++ (" \x7d".toList ++ rest))).dropWhile (· ≠ '\x7d') =
        '\x7d' :: rest := by
      rw [List.dropWhile_cons_of_pos (by decide), List.dropWhile_append_of_pos]
      · rfl
      · exact fun x hx => decide_eq_true (ns.ne_brace x hx)
    have hchars : ns.chars ++ rest = '\x7b' :: ' ' :: (ns.names ++ (" \x7d".toList ++ rest)) := by
      rw [Bindings.chars, List.append_assoc, List.append_assoc]
      rfl
    refine ⟨some '\x7d', ?_⟩
    rw [hchars]
    simp only [first?, braced, hdrop]
    rfl

/-- An export statement is read where its mark and what it passes on are. -/
theorem prefers_exportStatement {bound : List Char} {kind : EdgeKind} (what : List Char)
    (q : Quotation) (hbefore : isWord? before = false)
    (hfirst : ∃ first others, bound = first :: others ∧ Unicode.isSpace first = false)
    (hkind : ∀ before rest, Prefers typeMark before (bound ++ rest) kind (what ++ rest))
    (hwhat : ∀ before rest, Prefers exported before (what ++ (" from ".toList ++ rest)) ()
      (" from ".toList ++ rest)) :
    Prefers exportStatement before
      ("export".toList ++ (' ' :: (bound ++ (" from ".toList ++ (q.chars ++ rest)))))
      (kind, String.ofList q.specifier) rest := by
  refine (prefers_boundary hbefore (isWord?_word .exportStatement _)).bind fun _ => ?_
  refine (prefers_text "export").bind fun _ => ?_
  refine (prefers_blanks1 ?_).bind fun _ => ?_
  · obtain ⟨first, others, rfl, hspace⟩ := hfirst
    simpa using hspace
  refine (hkind _ _).bind fun _ => ?_
  refine (hwhat _ _).bind fun _ => ?_
  refine (prefers_blanks (by simp; decide)).bind fun _ => ?_
  refine (prefers_text "from").bind fun _ => ?_
  refine (prefers_blanks (q.isSpace_head _)).bind fun _ => ?_
  exact (q.prefers rest).bind fun _ => prefers_pure _

theorem Form.prefers_export {f : Form} (hf : f.construct = .exportStatement) (q : Quotation)
    (hbefore : isWord? before = false) :
    Prefers exportStatement before ("export".toList ++ (f.clause ++ (q.chars ++ rest)))
      (f.kind, String.ofList q.specifier) rest := by
  have hclause : f.clause = ' ' :: (f.bound ++ " from ".toList) := by
    cases f with
    | exportAll | exportAllAs _ | exportList _ | exportTypes _ => rfl
    | _ => cases hf
  have hstatic {first : Char} (hfirst : first ≠ 't') (before : Option Char) (others : List Char) :
      Prefers typeMark before (first :: others) .static (first :: others) :=
    prefers_typeMark_static fun ⟨_, h⟩ => hfirst (List.cons.inj h).1.symm
  rw [hclause, List.cons_append, List.append_assoc]
  cases f with
  | exportAll =>
    exact prefers_exportStatement ['*'] q hbefore ⟨'*', _, rfl, rfl⟩
      (fun _ _ => hstatic (by decide) _ _) fun _ => prefers_exported_all
  | exportAllAs n =>
    refine prefers_exportStatement ("* as ".toList ++ n.chars) q hbefore ⟨'*', _, rfl, rfl⟩
      (fun _ _ => hstatic (by decide) _ _) fun _ rest => ?_
    rw [List.append_assoc]
    exact prefers_exported_as n rest
  | exportList ns =>
    exact prefers_exportStatement ns.chars q hbefore ⟨'\x7b', _, rfl, rfl⟩
      (fun _ _ => hstatic (by decide) _ _) fun _ _ => prefers_exported_list ns _
  | exportTypes ns =>
    refine prefers_exportStatement ns.chars q hbefore ⟨'t', _, rfl, rfl⟩ (fun _ rest => ?_)
      fun _ _ => prefers_exported_list ns _
    have hfirst : ∀ x ∈ (ns.chars ++ rest).head?, Unicode.isSpace x = false := by
      intro x hx
      obtain rfl : '\x7b' = x := Option.some.inj hx
      rfl
    exact prefers_typeMark_typeOnly hfirst
  | _ => cases hf

/-- A statement is read as what it says, up to its quotes or the bracket behind them. -/
theorem Statement.prefers (s : Statement) (hbefore : isWord? before = false) (rest : List Char) :
    Prefers s.form.construct.reader before (s.core ++ rest) (s.form.kind, s.specifier) rest := by
  obtain ⟨f, q⟩ := s
  simp only [core, List.append_assoc]
  cases hf : f.construct with
  | importStatement =>
    rw [Form.close_of_statement (Or.inl hf)]
    exact prefers_importStatement f.plain_clause (Form.importKind?_clause hf) q hbefore
  | exportStatement =>
    rw [Form.close_of_statement (Or.inr hf)]
    exact Form.prefers_export hf q hbefore
  | importCall =>
    obtain ⟨hclause, hclose⟩ := Form.eq_of_call (Or.inl hf)
    have hkind := f.kind_mem_kinds
    rw [hf] at hkind
    rw [hclause, hclose, List.mem_singleton.mp hkind]
    exact prefers_call (k := .importCall) q hbefore
  | requireCall =>
    obtain ⟨hclause, hclose⟩ := Form.eq_of_call (Or.inr hf)
    have hkind := f.kind_mem_kinds
    rw [hf] at hkind
    rw [hclause, hclose, List.mem_singleton.mp hkind]
    exact prefers_call (k := .requireCall) q hbefore

end Reading

end TreeLint.Import
