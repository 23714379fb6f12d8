import TreeLint.Proofs.Pattern

/-!
What patterns mean, told by their texts. A path is shared out among the parts of a pattern: each
takes a block of names, one after another, and no name is left. A name is shared out among the
pieces of a glob in the same way, character by character. Main statement: this is what is matched,
although several `**` in a row are read as one, and a last one is not searched.
-/
namespace TreeLint

section Sharing

variable {σ τ α : Type}

/-- Whether a list can be cut into blocks, one after another, which each of `takers` takes in
turn. -/
def SharedOut (takes : τ → List α → Prop) (takers : List τ) (xs : List α) : Prop :=
  ∃ blocks, xs = blocks.flatten ∧ List.Forall₂ takes takers blocks

theorem sharedOut_nil_iff (takes : τ → List α → Prop) (xs : List α) :
    SharedOut takes [] xs ↔ xs = [] := by
  simp [SharedOut]

theorem sharedOut_cons_iff (takes : τ → List α → Prop) (t : τ) (takers : List τ) (xs : List α) :
    SharedOut takes (t :: takers) xs ↔
      ∃ block rest, xs = block ++ rest ∧ takes t block ∧ SharedOut takes takers rest := by
  constructor
  · rintro ⟨blocks, rfl, h⟩
    obtain ⟨block, others, hblock, hothers, rfl⟩ := List.forall₂_cons_left_iff.mp h
    exact ⟨block, others.flatten, rfl, hblock, others, rfl, hothers⟩
  · rintro ⟨block, rest, rfl, hblock, others, rfl, hothers⟩
    exact ⟨block :: others, rfl, .cons hblock hothers⟩

/-- Takers can be replaced by others that take the same blocks. -/
theorem sharedOut_congr {takes : σ → List α → Prop} {takes' : τ → List α → Prop}
    {takers : List σ} {takers' : List τ}
    (h : List.Forall₂ (fun s t => ∀ block, takes s block ↔ takes' t block) takers takers')
    (xs : List α) : SharedOut takes takers xs ↔ SharedOut takes' takers' xs := by
  induction h generalizing xs with
  | nil => rw [sharedOut_nil_iff, sharedOut_nil_iff]
  | cons hfirst _ ih => simp only [sharedOut_cons_iff, hfirst, ih]

/-- A taker of single elements takes the first one, and the others share out the rest. -/
theorem startsWithOne_iff_sharedOut {takes : τ → List α → Prop} {t : τ} {takers : List τ}
    {test : α → Bool} {f : List α → Bool}
    (ht : ∀ block, takes t block ↔ ∃ x, block = [x] ∧ test x = true)
    (hf : ∀ rest, f rest = true ↔ SharedOut takes takers rest) (xs : List α) :
    startsWithOne test f xs = true ↔ SharedOut takes (t :: takers) xs := by
  rw [startsWithOne_iff, sharedOut_cons_iff]
  constructor
  · rintro ⟨x, rest, rfl, hx, hrest⟩
    exact ⟨[x], rest, rfl, (ht _).mpr ⟨x, rfl, hx⟩, (hf rest).mp hrest⟩
  · rintro ⟨block, rest, rfl, hblock, hrest⟩
    obtain ⟨x, rfl, hx⟩ := (ht block).mp hblock
    exact ⟨x, rest, rfl, hx, (hf rest).mpr hrest⟩

theorem someSuffix_eq_any (f : List α → Bool) (xs : List α) : someSuffix f xs = xs.tails.any f := by
  induction xs with
  | nil => simp [someSuffix]
  | cons x xs ih => simp [someSuffix, ih]

end Sharing

/-- The characters that a piece of a glob stands for. -/
def GlobToken.Takes : GlobToken → List Char → Prop
  | .anyText, _ => True
  | .anyChar, cs => ∃ c, cs = [c]
  | .char d, cs => cs = [d]
  | .oneOf items, cs => ∃ c, cs = [c] ∧ ∃ item ∈ items, item.contains c = true
  | .noneOf items, cs => ∃ c, cs = [c] ∧ ∀ item ∈ items, item.contains c = false

namespace Glob

theorem spells_iff (tokens : List GlobToken) (cs : List Char) :
    spells tokens cs = true ↔ SharedOut GlobToken.Takes tokens cs := by
  induction tokens generalizing cs with
  | nil => rw [sharedOut_nil_iff, spells, List.isEmpty_iff]
  | cons token tokens ih =>
    cases token with
    | anyText => simp [spells, someSuffix_iff, sharedOut_cons_iff, ih, GlobToken.Takes]
    | anyChar => exact startsWithOne_iff_sharedOut (by simp [GlobToken.Takes]) ih cs
    | char d => exact startsWithOne_iff_sharedOut (by simp [GlobToken.Takes]) ih cs
    | oneOf items => exact startsWithOne_iff_sharedOut (by simp [GlobToken.Takes]) ih cs
    | noneOf items => exact startsWithOne_iff_sharedOut (by simp [GlobToken.Takes]) ih cs

theorem isMatch_iff (g : Glob) (name : String) :
    g.isMatch name = true ↔ SharedOut GlobToken.Takes g.tokens name.toList := by
  rw [isMatch_eq_spells, spells_iff]

end Glob

namespace PatternSegment

/-- Each segment takes the names that it accepts by itself. -/
theorem matchPath_iff (segments : List PatternSegment) (names : List String) :
    matchPath segments names = true ↔
      SharedOut (fun s block => matchPath [s] block = true) segments names := by
  induction segments generalizing names with
  | nil => rw [matchPath_nil_iff, sharedOut_nil_iff]
  | cons segment segments ih =>
    rw [matchPath_cons_iff, sharedOut_cons_iff]
    simp only [ih]

/-- Two `**` in a row accept what one of them does. -/
theorem matchPath_recursive_twice (rest : List PatternSegment) (names : List String) :
    matchPath (.recursive :: .recursive :: rest) names = true ↔
      matchPath (.recursive :: rest) names = true := by
  simp only [matchPath, someSuffix_iff]
  constructor
  · rintro ⟨before, _, rfl, middle, after, rfl, h⟩
    exact ⟨before ++ middle, after, by simp, h⟩
  · rintro ⟨before, after, rfl, h⟩
    exact ⟨before, after, rfl, [], after, rfl, h⟩

theorem matchPath_push (segment : PatternSegment) (rest : List PatternSegment)
    (names : List String) :
    matchPath (Pattern.push segment rest) names = true ↔
      matchPath (segment :: rest) names = true := by
  unfold Pattern.push
  split_ifs with h
  · obtain ⟨rfl, hhead⟩ : segment = .recursive ∧ rest.head? = some .recursive := by simpa using h
    obtain ⟨later, rfl⟩ := List.head?_eq_some_iff.mp hhead
    exact (matchPath_recursive_twice later names).symm
  · rfl

theorem matchPath_foldr_push (segments : List PatternSegment) (names : List String) :
    matchPath (segments.foldr Pattern.push []) names = true ↔ matchPath segments names = true := by
  induction segments generalizing names with
  | nil => rfl
  | cons segment segments ih =>
    rw [List.foldr_cons, matchPath_push, matchPath_cons_iff, matchPath_cons_iff]
    simp only [ih]

/-- Matching by trying, for each `**`, all places where it may end. Nothing is tried for a last one,
which takes whatever is left. -/
def search : List PatternSegment → List String → Bool
  | [], names => names.isEmpty
  | [.recursive], _ => true
  | .recursive :: rest, names => names.tails.any (search rest)
  | _ :: _, [] => false
  | segment :: rest, name :: names => segment.matchesName name && search rest names

theorem search_eq_matchPath (segments : List PatternSegment) (names : List String) :
    search segments names = matchPath segments names := by
  induction segments generalizing names with
  | nil => rfl
  | cons segment rest ih =>
    cases segment with
    | literal name => cases names <;> simp [search, matchPath, startsWithOne, ih]
    | wildcard glob => cases names <;> simp [search, matchPath, startsWithOne, ih]
    | recursive =>
      cases rest with
      | nil => exact (matchPath_recursive names).symm
      | cons next later =>
        have hrest : search (next :: later) = matchPath (next :: later) := funext ih
        rw [search, matchPath, someSuffix_eq_any, hrest]
        simp

end PatternSegment

namespace Pattern

/-- The names that a part of a pattern's text stands for: any names for `**`, and otherwise a single
one, which the part spells out or describes as a glob. -/
def PartTakes (part : String) (names : List String) : Prop :=
  part = "**" ∨ part ≠ "**" ∧ ∃ name, names = [name] ∧
    if isWild part then
      ∃ glob, Glob.parse part = .ok glob ∧ SharedOut GlobToken.Takes glob.tokens name.toList
    else name = part

theorem partTakes_iff {whole part : String} {s : PatternSegment} (h : segment whole part = .ok s)
    (names : List String) : PartTakes part names ↔ PatternSegment.matchPath [s] names = true := by
  unfold segment at h
  split_ifs at h with hup hrecursive hwild
  · obtain rfl := Except.ok.inj h
    exact iff_of_true (.inl hrecursive) (PatternSegment.matchPath_recursive names)
  · cases hglob : Glob.parse part with
    | error e => simp [hglob] at h
    | ok glob =>
      obtain rfl : PatternSegment.wildcard glob = s := by simpa [hglob] using h
      rw [PatternSegment.matchPath_one_iff (by simp)]
      simp [PartTakes, hrecursive, hwild, hglob, PatternSegment.matchesName, Glob.isMatch_iff]
  · obtain rfl := Except.ok.inj h
    rw [PatternSegment.matchPath_one_iff (by simp)]
    simp [PartTakes, hrecursive, hwild, PatternSegment.matchesName, eq_comm]

theorem foldr_push_eq_nil {segments : List PatternSegment} :
    segments.foldr push [] = [] ↔ segments = [] := by
  cases segments with
  | nil => simp
  | cons segment rest =>
    rw [List.foldr_cons, push]
    split_ifs with h
    · refine iff_of_false (fun hnil => ?_) (by simp)
      simp [hnil] at h
    · simp

/-- A path matches a pattern where its names are shared out among the parts of the pattern's text.
To read several `**` in a row as one makes no difference, nor does it to search all places where a
`**` may end except for a last one. -/
theorem isMatch_exact {text : String} {p : Pattern} (h : parse text = .ok p)
    (path : ProjectPath) :
    (p.isMatch path = true ↔
      parts text ≠ [] ∧ SharedOut PartTakes (parts text) path.segments) ∧
    (∃ read, (parts text).mapM (segment text) = .ok read ∧
      p.isMatch path = (!read.isEmpty && PatternSegment.matchPath read path.segments)) ∧
    p.isMatch path = (!p.isEmpty && PatternSegment.search p.segments path.segments) := by
  obtain ⟨-, read, hread, hsegments⟩ := parse_ok h
  have hparts := mapM_ok_iff.mp hread
  have hempty : p.segments = [] ↔ parts text = [] := by
    rw [hsegments, foldr_push_eq_nil, ← List.length_eq_zero_iff, ← List.length_eq_zero_iff,
      hparts.length_eq]
  have hmatch : PatternSegment.matchPath p.segments path.segments =
      PatternSegment.matchPath read path.segments := by
    rw [Bool.eq_iff_iff, hsegments, PatternSegment.matchPath_foldr_push]
  refine ⟨?_, ⟨read, hread, ?_⟩, ?_⟩
  · have hshared := sharedOut_congr (hparts.imp fun _ _ hs => partTakes_iff hs) path.segments
    rw [isMatch_iff, Ne, hempty, hmatch, PatternSegment.matchPath_iff, hshared]
  · have hnil : p.isEmpty = read.isEmpty := by
      rw [isEmpty, Bool.eq_iff_iff, List.isEmpty_iff, List.isEmpty_iff, hsegments,
        foldr_push_eq_nil]
    rw [isMatch_eq_matchPath, hmatch, hnil]
  · rw [isMatch_eq_matchPath, PatternSegment.search_eq_matchPath]

/-- Source files below a directory, with a `**` too many. -/
def belowSource : Pattern where
  text := "./src//**/**/[!x]*.ts"
  segments := [.literal "src", .recursive,
    .wildcard ⟨"[!x]*.ts", [.noneOf [.single 'x'], .anyText, .char '.', .char 't', .char 's']⟩]

theorem isMatch_exact_belowSource :
    parse "./src//**/**/[!x]*.ts" = .ok belowSource ∧
    belowSource.isMatch ⟨"src/a/b/c.ts"⟩ = true ∧
    ¬SharedOut PartTakes (parts "./src//**/**/[!x]*.ts")
      (ProjectPath.segments ⟨"src/a/b/x.ts"⟩) := by
  have hparse : parse "./src//**/**/[!x]*.ts" = .ok belowSource := by decide +kernel
  have hparts : parts "./src//**/**/[!x]*.ts" ≠ [] := by decide
  refine ⟨hparse, (isMatch_exact hparse _).1.mpr ⟨hparts, ?_⟩, fun hshared => ?_⟩
  · -- the first `**` takes nothing, and the second takes two names
    refine ⟨[["src"], [], ["a", "b"], ["c.ts"]], by decide, ?_⟩
    have hname : PartTakes "[!x]*.ts" ["c.ts"] := by
      refine .inr ⟨by decide, "c.ts", rfl, ?_⟩
      rw [if_pos (by decide)]
      refine ⟨⟨"[!x]*.ts", [.noneOf [.single 'x'], .anyText, .char '.', .char 't', .char 's']⟩,
        by decide, ?_⟩
      exact (Glob.spells_iff _ _).mp (by decide)
    have hliteral : PartTakes "src" ["src"] :=
      .inr ⟨by decide, "src", rfl, by rw [if_neg (by decide)]⟩
    exact .cons hliteral (.cons (.inl rfl) (.cons (.inl rfl) (.cons hname .nil)))
  · have hmatch := (isMatch_exact hparse ⟨"src/a/b/x.ts"⟩).1.mpr ⟨hparts, hshared⟩
    revert hmatch
    decide +kernel

end Pattern
end TreeLint
