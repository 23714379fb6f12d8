import Mathlib.Data.List.Infix
import TreeLint.Import.Edge

/-!
What readers read, and which way of reading is preferred. Reading goes forward in the text. A
statement or call is read where its word stands, with a blank or a bracket right after the word, and
the module that it names stands in quotes further on.
-/
namespace TreeLint.Import

namespace Reader

section Ways

variable {α β : Type} {c c' : Cursor}

theorem mem_pure {a b : α} : (b, c') ∈ (pure a : Reader α) c ↔ b = a ∧ c' = c := by
  change (b, c') ∈ [(a, c)] ↔ _
  simp

theorem mem_bind {r : Reader α} {f : α → Reader β} {b : β} :
    (b, c') ∈ (r >>= f) c ↔ ∃ a between, (a, between) ∈ r c ∧ (b, c') ∈ f a between := by
  change (b, c') ∈ (r c).flatMap (fun way => f way.1 way.2) ↔ _
  simp

theorem mem_orElse {r s : Reader α} {a : α} :
    (a, c') ∈ orElse r s c ↔ (a, c') ∈ r c ∨ (a, c') ∈ s c :=
  List.mem_append

theorem mem_ofOption {a : Option α} {b : α} :
    (b, c') ∈ ofOption a c ↔ a = some b ∧ c' = c := by
  cases a <;> simp [ofOption, eq_comm]

theorem mem_char {p : Char → Bool} {u : Unit} :
    (u, c') ∈ char p c ↔ ∃ x rest, c.rest = x :: rest ∧ p x = true ∧ c' = ⟨some x, rest⟩ := by
  unfold char
  cases h : c.rest with
  | nil => simp
  | cons x rest => by_cases hx : p x = true <;> simp [hx]

theorem mem_chars {xs : List Char} {u : Unit} (h : (u, c') ∈ chars xs c) :
    c.rest = xs ++ c'.rest := by
  induction xs generalizing c with
  | nil =>
    obtain ⟨-, rfl⟩ := mem_pure.mp h
    rfl
  | cons x xs ih =>
    rw [chars] at h
    obtain ⟨_, between, hx, hxs⟩ := mem_bind.mp h
    obtain ⟨y, rest, hrest, hy, rfl⟩ := mem_char.mp hx
    rw [hrest, List.cons_append, ← ih hxs, of_decide_eq_true hy]

theorem mem_text {s : String} {u : Unit} (h : (u, c') ∈ text s c) :
    c.rest = s.toList ++ c'.rest :=
  mem_chars h

theorem mem_boundary {u : Unit} (h : (u, c') ∈ boundary c) : c' = c := by
  unfold boundary at h
  split_ifs at h <;> simp_all

end Ways

/-- The preferred way of `r` to read `text`, with `before` in front of it, gives `a` and stops at
`rest`. -/
def Prefers {α : Type} (r : Reader α) (before : Option Char) (text : List Char) (a : α)
    (rest : List Char) : Prop :=
  ∃ last, r.first? ⟨before, text⟩ = some (a, ⟨last, rest⟩)

section Preferred

variable {α β : Type} {before : Option Char} {text rest : List Char}

theorem prefers_pure (a : α) : Prefers (pure a) before text a text := ⟨before, rfl⟩

theorem Prefers.bind {r : Reader α} {f : α → Reader β} {a : α} {b : β} {left : List Char}
    (hr : Prefers r before text a left) (hf : ∀ last, Prefers (f a) last left b rest) :
    Prefers (r >>= f) before text b rest := by
  obtain ⟨last, hfirst⟩ := hr
  obtain ⟨last', hnext⟩ := hf last
  refine ⟨last', ?_⟩
  obtain ⟨others, hways⟩ := List.head?_eq_some_iff.mp hfirst
  change ((r ⟨before, text⟩).flatMap fun way => f way.1 way.2).head? = _
  rw [hways, List.flatMap_cons, List.head?_append]
  exact congrArg (Option.or · _) hnext

theorem Prefers.orElse {r s : Reader α} {a : α} (h : Prefers r before text a rest) :
    Prefers (orElse r s) before text a rest := by
  obtain ⟨last, hfirst⟩ := h
  refine ⟨last, ?_⟩
  change (r ⟨before, text⟩ ++ s ⟨before, text⟩).head? = _
  rw [List.head?_append]
  exact congrArg (Option.or · _) hfirst

/-- Where there is no way of `r`, that of `s` is taken. -/
theorem Prefers.orElse_of_nil {r s : Reader α} {a : α} (hnone : r ⟨before, text⟩ = [])
    (h : Prefers s before text a rest) : Prefers (Reader.orElse r s) before text a rest := by
  obtain ⟨last, hfirst⟩ := h
  refine ⟨last, ?_⟩
  change (r ⟨before, text⟩ ++ s ⟨before, text⟩).head? = _
  rwa [hnone, List.nil_append]

theorem prefers_ofOption (a : α) : Prefers (ofOption (some a)) before text a text := ⟨before, rfl⟩

theorem prefers_char {p : Char → Bool} {x : Char} (hx : p x = true) :
    Prefers (char p) before (x :: rest) () rest :=
  ⟨some x, by simp [first?, char, hx]⟩

theorem prefers_chars (xs : List Char) : Prefers (chars xs) before (xs ++ rest) () rest := by
  induction xs generalizing before with
  | nil => exact prefers_pure ()
  | cons x xs ih => exact (prefers_char (by simp)).bind fun _ => ih

theorem prefers_text (s : String) : Prefers (Reader.text s) before (s.toList ++ rest) () rest :=
  prefers_chars s.toList

theorem prefers_boundary (hbefore : isWord? before = false) (htext : isWord? text.head? = true) :
    Prefers boundary before text () text :=
  ⟨before, by simp [first?, boundary, hbefore, htext]⟩

theorem getLast?_ends {p : Char → Bool} {passed : List Char} (before : Option Char)
    (hpassed : ∀ x ∈ passed, p x = true) (hrest : ∀ x ∈ rest.head?, p x = false) :
    ∃ last, (ends p before (passed ++ rest)).getLast? = some ⟨last, rest⟩ := by
  induction passed generalizing before with
  | nil =>
    cases rest with
    | nil => exact ⟨before, rfl⟩
    | cons x rest => exact ⟨before, by simp [ends, hrest x rfl]⟩
  | cons x passed ih =>
    obtain ⟨hx, hpassed⟩ := List.forall_mem_cons.mp hpassed
    obtain ⟨last, hlast⟩ := ih (some x) hpassed
    refine ⟨last, ?_⟩
    rw [List.cons_append, ends, if_pos hx, List.getLast?_cons, hlast]
    rfl

theorem prefers_many {p : Char → Bool} {passed : List Char} (hpassed : ∀ x ∈ passed, p x = true)
    (hrest : ∀ x ∈ rest.head?, p x = false) :
    Prefers (many p) before (passed ++ rest) () rest := by
  obtain ⟨last, hlast⟩ := getLast?_ends before hpassed hrest
  exact ⟨last, by simp [first?, many, hlast]⟩

theorem prefers_many1 {p : Char → Bool} {x : Char} {passed : List Char} (hx : p x = true)
    (hpassed : ∀ x ∈ passed, p x = true) (hrest : ∀ x ∈ rest.head?, p x = false) :
    Prefers (many1 p) before (x :: (passed ++ rest)) () rest :=
  (prefers_char hx).bind fun _ => prefers_many hpassed hrest

end Preferred

/-- Reading with `r` goes on in the text from where it starts. -/
def Forward {α : Type} (r : Reader α) : Prop :=
  ∀ c a c', (a, c') ∈ r c → c'.rest <:+ c.rest

section Forward

variable {α β : Type}

theorem forward_pure (a : α) : Forward (pure a : Reader α) := by
  intro c b c' h
  obtain ⟨-, rfl⟩ := mem_pure.mp h
  exact List.suffix_refl _

theorem Forward.bind {r : Reader α} {f : α → Reader β} (hr : Forward r)
    (hf : ∀ a, Forward (f a)) : Forward (r >>= f) := by
  intro c b c' h
  obtain ⟨a, between, ha, hb⟩ := mem_bind.mp h
  exact (hf a between b c' hb).trans (hr c a between ha)

theorem Forward.orElse {r s : Reader α} (hr : Forward r) (hs : Forward s) :
    Forward (orElse r s) := by
  intro c a c' h
  exact (mem_orElse.mp h).elim (hr c a c') (hs c a c')

theorem forward_char (p : Char → Bool) : Forward (char p) := by
  intro c u c' h
  obtain ⟨x, rest, hrest, -, rfl⟩ := mem_char.mp h
  exact ⟨[x], hrest.symm⟩

theorem forward_text (s : String) : Forward (text s) :=
  fun _ _ _ h => ⟨s.toList, (mem_text h).symm⟩

theorem mem_ends {p : Char → Bool} {before : Option Char} {cs : List Char} {c : Cursor}
    (h : c ∈ ends p before cs) : ∃ passed, cs = passed ++ c.rest ∧ ∀ x ∈ passed, p x = true := by
  induction cs generalizing before with
  | nil =>
    obtain rfl := List.mem_singleton.mp h
    exact ⟨[], rfl, by simp⟩
  | cons x rest ih =>
    rcases List.mem_cons.mp h with rfl | h
    · exact ⟨[], rfl, by simp⟩
    · split_ifs at h with hx
      · obtain ⟨passed, hpassed, hall⟩ := ih h
        exact ⟨x :: passed, congrArg (x :: ·) hpassed, List.forall_mem_cons.mpr ⟨hx, hall⟩⟩
      · cases h

theorem mem_many {p : Char → Bool} {c c' : Cursor} {u : Unit} (h : (u, c') ∈ many p c) :
    ∃ passed, c.rest = passed ++ c'.rest ∧ ∀ x ∈ passed, p x = true := by
  obtain ⟨stop, hstop, heq⟩ := List.mem_map.mp h
  obtain rfl : stop = c' := (Prod.mk.inj heq).2
  exact mem_ends (List.mem_reverse.mp hstop)

theorem forward_many (p : Char → Bool) : Forward (many p) := by
  intro c u c' h
  obtain ⟨passed, hpassed, -⟩ := mem_many h
  exact ⟨passed, hpassed.symm⟩

theorem forward_many1 (p : Char → Bool) : Forward (many1 p) :=
  (forward_char p).bind fun _ => forward_many p

end Forward
end Reader

open Reader

/-- A text between quotes on one line. -/
structure IsSpecifier (specifier : String) : Prop where
  ne_empty : specifier ≠ ""
  no_quote : ∀ c ∈ specifier.toList, isQuote c = false
  no_break : '\n' ∉ specifier.toList

theorem mem_quoted {c c' : Cursor} {specifier : String} (h : (specifier, c') ∈ quoted c) :
    IsSpecifier specifier ∧ ∃ opening closing, isQuote opening = true ∧ isQuote closing = true ∧
      c.rest = opening :: (specifier.toList ++ closing :: c'.rest) := by
  unfold quoted at h
  split at h
  · cases h
  · next opening rest hrest =>
    simp only at h
    split at h
    · next closing after hafter =>
      split_ifs at h with hshape
      · obtain ⟨rfl, rfl⟩ := Prod.mk.inj (List.mem_singleton.mp h)
        simp only [Bool.and_eq_true, Bool.not_eq_true', List.isEmpty_eq_false_iff] at hshape
        obtain ⟨⟨hopening, hne⟩, hclosing⟩ := hshape
        have hread : ∀ x ∈ rest.takeWhile fun x => !isQuote x && x != '\n',
            isQuote x = false ∧ x ≠ '\n' := by
          intro x hx
          simpa using List.all_eq_true.mp List.all_takeWhile x hx
        refine ⟨⟨?_, fun x hx => ?_, fun hbreak => ?_⟩, opening, closing, hopening, hclosing, ?_⟩
        · simpa using hne
        · exact (hread x (by simpa using hx)).1
        · exact (hread _ (by simpa using hbreak)).2 rfl
        · rw [hrest, String.toList_ofList, ← hafter,
            List.prefix_iff_eq_append.mp (List.takeWhile_prefix _)]
      · cases h
    · cases h

theorem prefers_quoted {before : Option Char} {opening closing : Char} {specifier : List Char}
    (hopening : isQuote opening = true) (hclosing : isQuote closing = true) (hne : specifier ≠ [])
    (hspecifier : ∀ x ∈ specifier, isQuote x = false ∧ x ≠ '\n') (rest : List Char) :
    Prefers quoted before (opening :: (specifier ++ closing :: rest)) (String.ofList specifier)
      rest := by
  have hread : (specifier ++ closing :: rest).takeWhile (fun x => !isQuote x && x != '\n') =
      specifier := by
    rw [List.takeWhile_append_of_pos (by simpa using hspecifier)]
    simp [hclosing]
  refine ⟨some closing, ?_⟩
  simp only [first?, quoted, hread, List.drop_left]
  simp [hopening, hclosing, hne]

/-- A module stands between quotes somewhere in a text. -/
def Quotes (specifier : String) (text : List Char) : Prop :=
  ∃ between opening closing after, isQuote opening = true ∧ isQuote closing = true ∧
    text = between ++ opening :: (specifier.toList ++ closing :: after)

theorem Quotes.of_mem {specifier : String} {c c' : Cursor} {text : List Char}
    (hrest : c.rest <:+ text) (h : (specifier, c') ∈ quoted c) : Quotes specifier text := by
  obtain ⟨-, opening, closing, hopening, hclosing, hquoted⟩ := mem_quoted h
  obtain ⟨between, rfl⟩ := hrest
  exact ⟨between, opening, closing, c'.rest, hopening, hclosing, by rw [hquoted]⟩

theorem mem_clause {c c' : Cursor} {cs : List Char} (h : (cs, c') ∈ clause c) :
    c.rest = cs ++ c'.rest := by
  obtain ⟨rfl, rfl⟩ := Prod.mk.inj (List.mem_singleton.mp h)
  exact (List.prefix_iff_eq_append.mp (List.takeWhile_prefix _)).symm

/-- A text that starts with a blank. -/
def BlankFirst (text : List Char) : Prop :=
  ∃ next rest, text = next :: rest ∧ Unicode.isSpace next = true

/-- A text that starts with a bracket, perhaps after blanks. -/
def BracketFirst (text : List Char) : Prop :=
  ∃ blanks rest, text = blanks ++ '(' :: rest ∧ ∀ x ∈ blanks, Unicode.isSpace x = true

theorem importKind?_eq_some {cs : List Char} {kind : EdgeKind} (h : importKind? cs = some kind) :
    (kind = .static ∨ kind = .typeOnly) ∧ BlankFirst cs := by
  have hblank : cs.head?.any Unicode.isSpace = true := by
    by_contra hnone
    simp [importKind?, hnone] at h
  constructor
  · simp only [importKind?] at h
    split_ifs at h <;> simp_all
  · cases cs with
    | nil => simp at hblank
    | cons next rest => exact ⟨next, rest, rfl, by simpa using hblank⟩

theorem mem_typeMark {c c' : Cursor} {kind : EdgeKind} (h : (kind, c') ∈ typeMark c) :
    (kind = .static ∨ kind = .typeOnly) ∧ c'.rest <:+ c.rest := by
  rcases mem_orElse.mp h with h | h
  · obtain ⟨_, c₁, h₁, h⟩ := mem_bind.mp h
    obtain ⟨_, c₂, h₂, h⟩ := mem_bind.mp h
    obtain ⟨rfl, rfl⟩ := mem_pure.mp h
    exact ⟨Or.inr rfl, (forward_many1 _ _ _ _ h₂).trans (forward_text _ _ _ _ h₁)⟩
  · obtain ⟨rfl, rfl⟩ := mem_pure.mp h
    exact ⟨Or.inl rfl, List.suffix_refl _⟩

theorem forward_braced : Forward braced := by
  intro c u c' h
  unfold braced at h
  split at h
  · next rest hrest =>
    split at h
    · next closing after hafter =>
      obtain ⟨-, rfl⟩ := Prod.mk.inj (List.mem_singleton.mp h)
      have hsuffix : after <:+ rest :=
        (List.suffix_cons closing after).trans (hafter ▸ List.dropWhile_suffix _)
      exact hrest ▸ hsuffix.trans (List.suffix_cons _ _)
    · cases h
  · cases h

theorem forward_exported : Forward exported :=
  (((forward_text _).bind fun _ =>
    ((forward_many1 _).bind fun _ => (forward_text _).bind fun _ => (forward_many1 _).bind fun _ =>
      forward_many1 _).orElse (forward_pure ()))).orElse forward_braced

/-- The statements and calls that are looked for. -/
inductive Construct
  | importStatement
  | exportStatement
  | importCall
  | requireCall
deriving DecidableEq

namespace Construct

def all : List Construct := [.importStatement, .exportStatement, .importCall, .requireCall]

def reader : Construct → Reader (EdgeKind × String)
  | .importStatement => Import.importStatement
  | .exportStatement => Import.exportStatement
  | .importCall => Import.importCall
  | .requireCall => Import.requireCall

/-- The word that it starts with. -/
def word : Construct → String
  | .importStatement | .importCall => "import"
  | .exportStatement => "export"
  | .requireCall => "require"

def kinds : Construct → List EdgeKind
  | .importStatement | .exportStatement => [.static, .typeOnly]
  | .importCall => [.dynamic]
  | .requireCall => [.require]

/-- What has to follow the word. -/
def Follows : Construct → List Char → Prop
  | .importStatement | .exportStatement => BlankFirst
  | .importCall | .requireCall => BracketFirst

/-- A text that starts with the word, and with what has to follow it. -/
def Opens (k : Construct) (text : List Char) : Prop :=
  ∃ rest, text = k.word.toList ++ rest ∧ k.Follows rest

end Construct

section Constructs

variable {c c' : Cursor} {kind : EdgeKind} {specifier : String}

theorem mem_importStatement (hread : ((kind, specifier), c') ∈ importStatement c) :
    (kind = .static ∨ kind = .typeOnly) ∧ IsSpecifier specifier ∧
      ∃ rest, c.rest = "import".toList ++ rest ∧ BlankFirst rest ∧ Quotes specifier rest := by
  obtain ⟨_, c₁, h₁, h⟩ := mem_bind.mp hread
  obtain rfl := mem_boundary h₁
  obtain ⟨_, c₂, h₂, h⟩ := mem_bind.mp h
  obtain ⟨cs, c₃, h₃, h⟩ := mem_bind.mp h
  obtain ⟨k, c₄, h₄, h⟩ := mem_bind.mp h
  obtain ⟨s, c₅, h₅, h⟩ := mem_bind.mp h
  obtain ⟨heq, -⟩ := mem_pure.mp h
  obtain ⟨rfl, rfl⟩ := Prod.mk.inj heq
  obtain ⟨hkind, rfl⟩ := mem_ofOption.mp h₄
  obtain ⟨hkinds, next, rest, rfl, hnext⟩ := importKind?_eq_some hkind
  have hclause : c₂.rest = next :: (rest ++ c₄.rest) := mem_clause h₃
  refine ⟨hkinds, (mem_quoted h₅).1, c₂.rest, mem_text h₂, ⟨next, _, hclause, hnext⟩, ?_⟩
  exact Quotes.of_mem ⟨next :: rest, (mem_clause h₃).symm⟩ h₅

theorem mem_exportStatement (hread : ((kind, specifier), c') ∈ exportStatement c) :
    (kind = .static ∨ kind = .typeOnly) ∧ IsSpecifier specifier ∧
      ∃ rest, c.rest = "export".toList ++ rest ∧ BlankFirst rest ∧ Quotes specifier rest := by
  obtain ⟨_, c₁, h₁, h⟩ := mem_bind.mp hread
  obtain rfl := mem_boundary h₁
  obtain ⟨_, c₂, h₂, h⟩ := mem_bind.mp h
  obtain ⟨_, c₃, h₃, h⟩ := mem_bind.mp h
  obtain ⟨_, c₄, h₄, h₃⟩ := mem_bind.mp h₃
  obtain ⟨next, rest, hrest, hnext, rfl⟩ := mem_char.mp h₄
  obtain ⟨k, c₅, h₅, h⟩ := mem_bind.mp h
  obtain ⟨_, c₆, h₆, h⟩ := mem_bind.mp h
  obtain ⟨_, c₇, h₇, h⟩ := mem_bind.mp h
  obtain ⟨_, c₈, h₈, h⟩ := mem_bind.mp h
  obtain ⟨_, c₉, h₉, h⟩ := mem_bind.mp h
  obtain ⟨s, c₁₀, h₁₀, h⟩ := mem_bind.mp h
  obtain ⟨heq, -⟩ := mem_pure.mp h
  obtain ⟨rfl, rfl⟩ := Prod.mk.inj heq
  obtain ⟨hkinds, hmark⟩ := mem_typeMark h₅
  have hforward : c₉.rest <:+ c₂.rest :=
    calc c₉.rest <:+ c₈.rest := forward_many _ _ _ _ h₉
      _ <:+ c₇.rest := forward_text _ _ _ _ h₈
      _ <:+ c₆.rest := forward_many _ _ _ _ h₇
      _ <:+ c₅.rest := forward_exported _ _ _ h₆
      _ <:+ c₃.rest := hmark
      _ <:+ rest := forward_many _ _ _ _ h₃
      _ <:+ c₂.rest := ⟨[next], hrest.symm⟩
  exact ⟨hkinds, (mem_quoted h₁₀).1, c₂.rest, mem_text h₂, ⟨next, rest, hrest, hnext⟩,
    Quotes.of_mem hforward h₁₀⟩

theorem mem_call {function : String} {named : EdgeKind}
    (hread : ((kind, specifier), c') ∈ call function named c) :
    kind = named ∧ IsSpecifier specifier ∧
      ∃ rest, c.rest = function.toList ++ rest ∧ BracketFirst rest ∧ Quotes specifier rest := by
  obtain ⟨_, c₁, h₁, h⟩ := mem_bind.mp hread
  obtain rfl := mem_boundary h₁
  obtain ⟨_, c₂, h₂, h⟩ := mem_bind.mp h
  obtain ⟨_, c₃, h₃, h⟩ := mem_bind.mp h
  obtain ⟨_, c₄, h₄, h⟩ := mem_bind.mp h
  obtain ⟨_, c₅, h₅, h⟩ := mem_bind.mp h
  obtain ⟨s, c₆, h₆, h⟩ := mem_bind.mp h
  obtain ⟨_, c₇, h₇, h⟩ := mem_bind.mp h
  obtain ⟨_, c₈, h₈, h⟩ := mem_bind.mp h
  obtain ⟨heq, -⟩ := mem_pure.mp h
  obtain ⟨rfl, rfl⟩ := Prod.mk.inj heq
  obtain ⟨blanks, hblanks, hspace⟩ := mem_many h₃
  have hbracket : c₂.rest = blanks ++ '(' :: c₄.rest := by
    rw [hblanks, mem_text h₄]
    rfl
  have hforward : c₅.rest <:+ c₂.rest :=
    calc c₅.rest <:+ c₄.rest := forward_many _ _ _ _ h₅
      _ <:+ c₃.rest := forward_text _ _ _ _ h₄
      _ <:+ c₂.rest := ⟨blanks, hblanks.symm⟩
  exact ⟨rfl, (mem_quoted h₆).1, c₂.rest, mem_text h₂, ⟨blanks, _, hbracket, hspace⟩,
    Quotes.of_mem hforward h₆⟩

/-- What a construct is read from, and what is read. -/
theorem Construct.mem_reader {k : Construct} (h : ((kind, specifier), c') ∈ k.reader c) :
    kind ∈ k.kinds ∧ IsSpecifier specifier ∧
      ∃ rest, c.rest = k.word.toList ++ rest ∧ k.Follows rest ∧ Quotes specifier rest := by
  cases k with
  | importStatement => exact (mem_importStatement h).imp_left List.mem_pair.mpr
  | exportStatement => exact (mem_exportStatement h).imp_left List.mem_pair.mpr
  | importCall => exact (mem_call h).imp_left List.mem_singleton.mpr
  | requireCall => exact (mem_call h).imp_left List.mem_singleton.mpr

/-- Nothing is read where the word of a construct does not open it. -/
theorem Construct.first?_eq_none {k : Construct} (h : ¬k.Opens c.rest) :
    k.reader.first? c = none := by
  rw [Reader.first?, List.head?_eq_none_iff, List.eq_nil_iff_forall_not_mem]
  rintro ⟨⟨kind, specifier⟩, stop⟩ hread
  obtain ⟨-, -, rest, hrest, hfollows, -⟩ := mem_reader hread
  exact h ⟨rest, hrest, hfollows⟩

end Constructs

end TreeLint.Import
