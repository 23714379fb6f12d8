import Mathlib.Data.List.Basic
import TreeLint.Pattern
import TreeLint.Proofs.Results

/-!
What a pattern accepts: its segments share out the names of a path, in order, and what follows a
last `**` is accepted whatever it is.
-/
namespace TreeLint

theorem someSuffix_iff {α : Type} (f : List α → Bool) (xs : List α) :
    someSuffix f xs = true ↔ ∃ before after, xs = before ++ after ∧ f after = true := by
  induction xs with
  | nil =>
    simp only [someSuffix]
    constructor
    · intro h
      exact ⟨[], [], rfl, h⟩
    · rintro ⟨before, after, heq, h⟩
      rwa [(List.append_eq_nil_iff.mp heq.symm).2] at h
  | cons x xs ih =>
    simp only [someSuffix, Bool.or_eq_true, ih]
    constructor
    · rintro (h | ⟨before, after, rfl, h⟩)
      · exact ⟨[], x :: xs, rfl, h⟩
      · exact ⟨x :: before, after, rfl, h⟩
    · rintro ⟨before, after, heq, h⟩
      cases before with
      | nil =>
        left
        rwa [heq]
      | cons y before =>
        right
        exact ⟨before, after, (List.cons.inj heq).2, h⟩

theorem startsWithOne_iff {α : Type} (test : α → Bool) (f : List α → Bool) (xs : List α) :
    startsWithOne test f xs = true ↔ ∃ x rest, xs = x :: rest ∧ test x = true ∧ f rest = true := by
  cases xs <;> simp [startsWithOne]

namespace PatternSegment

theorem matchPath_nil_iff (names : List String) : matchPath [] names = true ↔ names = [] :=
  List.isEmpty_iff

theorem matchPath_recursive (names : List String) : matchPath [.recursive] names = true :=
  (someSuffix_iff _ names).mpr ⟨names, [], by simp, rfl⟩

theorem matchPath_one_iff {segment : PatternSegment} (h : segment ≠ .recursive)
    (names : List String) :
    matchPath [segment] names = true ↔ ∃ n, names = [n] ∧ segment.matchesName n = true := by
  have hone : matchPath [segment] = startsWithOne segment.matchesName (matchPath []) := by
    cases segment with
    | recursive => exact absurd rfl h
    | literal name => rfl
    | wildcard glob => rfl
  rw [hone, startsWithOne_iff]
  constructor
  · rintro ⟨n, rest, rfl, hn, hrest⟩
    exact ⟨n, by rw [(matchPath_nil_iff rest).mp hrest], hn⟩
  · rintro ⟨n, rfl, hn⟩
    exact ⟨n, [], rfl, hn, rfl⟩

/-- The first segment takes the names that it fits by itself, and the others take the rest. -/
theorem matchPath_cons_iff (segment : PatternSegment) (segments : List PatternSegment)
    (names : List String) :
    matchPath (segment :: segments) names = true ↔
      ∃ before after, names = before ++ after ∧ matchPath [segment] before = true ∧
        matchPath segments after = true := by
  by_cases hrec : segment = .recursive
  · subst hrec
    simp only [matchPath_recursive, true_and]
    exact someSuffix_iff (matchPath segments) names
  · have hcons : matchPath (segment :: segments) =
        startsWithOne segment.matchesName (matchPath segments) := by
      cases segment with
      | recursive => exact absurd rfl hrec
      | literal name => rfl
      | wildcard glob => rfl
    rw [hcons, startsWithOne_iff]
    constructor
    · rintro ⟨n, rest, rfl, hn, hrest⟩
      exact ⟨[n], rest, rfl, (matchPath_one_iff hrec [n]).mpr ⟨n, rfl, hn⟩, hrest⟩
    · rintro ⟨before, after, rfl, hbefore, hafter⟩
      obtain ⟨n, rfl, hn⟩ := (matchPath_one_iff hrec before).mp hbefore
      exact ⟨n, after, rfl, hn, hafter⟩

/-- Two runs of segments accept what is accepted by one and then by the other. -/
theorem matchPath_append_iff (first second : List PatternSegment) (names : List String) :
    matchPath (first ++ second) names = true ↔
      ∃ before after, names = before ++ after ∧ matchPath first before = true ∧
        matchPath second after = true := by
  induction first generalizing names with
  | nil =>
    constructor
    · intro h
      exact ⟨[], names, rfl, rfl, h⟩
    · rintro ⟨before, after, rfl, hbefore, hafter⟩
      rwa [(matchPath_nil_iff before).mp hbefore]
  | cons segment segments ih =>
    rw [List.cons_append, matchPath_cons_iff]
    constructor
    · rintro ⟨one, rest, rfl, hone, hrest⟩
      obtain ⟨before, after, rfl, hbefore, hafter⟩ := (ih rest).mp hrest
      refine ⟨one ++ before, after, by simp, ?_, hafter⟩
      exact (matchPath_cons_iff segment segments _).mpr ⟨one, before, rfl, hone, hbefore⟩
    · rintro ⟨before, after, rfl, hbefore, hafter⟩
      obtain ⟨one, rest, rfl, hone, hrest⟩ :=
        (matchPath_cons_iff segment segments before).mp hbefore
      exact ⟨one, rest ++ after, by simp, hone, (ih _).mpr ⟨rest, after, rfl, hrest, hafter⟩⟩

/-- A last `**` accepts any further names. -/
theorem matchPath_extend {segments : List PatternSegment} {names : List String}
    (hlast : segments.getLast? = some .recursive) (h : matchPath segments names = true)
    (more : List String) : matchPath segments (names ++ more) = true := by
  obtain ⟨before, rfl⟩ := List.getLast?_eq_some_iff.mp hlast
  obtain ⟨taken, rest, rfl, htaken, -⟩ := (matchPath_append_iff before _ names).mp h
  exact (matchPath_append_iff before _ _).mpr
    ⟨taken, rest ++ more, by simp, htaken, matchPath_recursive _⟩

end PatternSegment

namespace Pattern

theorem isMatch_iff (p : Pattern) (path : ProjectPath) :
    p.isMatch path = true ↔
      p.segments ≠ [] ∧ PatternSegment.matchPath p.segments path.segments = true := by
  rw [isMatch_eq_matchPath, Bool.and_eq_true]
  simp [isEmpty]

theorem endsRecursive_iff (p : Pattern) :
    p.endsRecursive = true ↔ p.segments.getLast? = some .recursive := by
  simp [endsRecursive]

/-- What a pattern with a last `**` accepts, it accepts with all that lies below. -/
theorem isMatch_below {p : Pattern} {dir path : ProjectPath} (hlast : p.endsRecursive = true)
    (hdir : p.isMatch dir = true) (hbelow : dir.segments <+: path.segments) :
    p.isMatch path = true := by
  obtain ⟨hne, hmatch⟩ := (isMatch_iff p dir).mp hdir
  obtain ⟨more, hmore⟩ := hbelow
  refine (isMatch_iff p path).mpr ⟨hne, ?_⟩
  rw [← hmore]
  exact PatternSegment.matchPath_extend ((endsRecursive_iff p).mp hlast) hmatch more

/-- The text of the whole pattern is there for errors only. -/
theorem segment_ok_congr {whole whole' part : String} {s : PatternSegment}
    (h : segment whole part = .ok s) : segment whole' part = .ok s := by
  unfold segment at h ⊢
  split_ifs at h ⊢
  · exact h
  · cases hglob : Glob.parse part with
    | error e => simp [hglob] at h
    | ok glob => simpa [hglob] using h
  · exact h

theorem mapM_segment_congr {whole whole' : String} {parts : List String}
    {segments : List PatternSegment} (h : parts.mapM (segment whole) = .ok segments) :
    parts.mapM (segment whole') = .ok segments :=
  mapM_ok_iff.mpr ((mapM_ok_iff.mp h).imp fun _ _ => segment_ok_congr)

theorem parts_append_recursive (text : String) : parts (text ++ "/**") = parts text ++ ["**"] := by
  have hchars : (text ++ "/**").toList = text.toList ++ '/' :: ['*', '*'] := by simp
  rw [parts, hchars, List.splitOn_append_cons_self, List.map_append, List.filter_append]
  rfl

/-- A last `**` is kept, unless there is one already. -/
theorem foldr_push_recursive (segments : List PatternSegment) :
    segments.foldr push [.recursive] =
      if (segments.foldr push []).getLast? = some .recursive then segments.foldr push []
      else segments.foldr push [] ++ [.recursive] := by
  induction segments with
  | nil => rfl
  | cons s rest ih =>
    rw [List.foldr_cons, List.foldr_cons, ih]
    cases hrest : rest.foldr push [] with
    | nil => by_cases hs : s = .recursive <;> simp [push, hs]
    | cons first others =>
      have hpush : ∀ more, push s (first :: others ++ more) = push s (first :: others) ++ more := by
        intro more
        unfold push
        split_ifs <;> simp_all
      have hlast : (push s (first :: others)).getLast? = (first :: others).getLast? := by
        unfold push
        split_ifs <;> simp
      rw [hlast]
      split_ifs
      · rfl
      · exact hpush _

/-- What a pattern is read from. -/
theorem parse_ok {text : String} {p : Pattern} (h : parse text = .ok p) :
    p.text = text ∧ ∃ read, (parts text).mapM (segment text) = .ok read ∧
      p.segments = read.foldr push [] := by
  obtain ⟨read, hread, h⟩ := bind_ok_iff.mp h
  obtain rfl := Except.ok.inj h
  exact ⟨rfl, read, hread, rfl⟩

end Pattern
end TreeLint
