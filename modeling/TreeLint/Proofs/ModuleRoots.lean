import TreeLint.Check.PublicApi
import TreeLint.Proofs.Walk

/-!
No module lies in another one. The matches of a plain pattern all have the same number of names, and
any other pattern makes a module of the outermost match only.
-/
namespace TreeLint

open ProjectPath

theorem pairwise_length_inits {α : Type} (xs : List α) :
    xs.inits.Pairwise fun a b => a.length < b.length := by
  induction xs with
  | nil => simp
  | cons x xs ih =>
    rw [List.inits_cons, List.pairwise_cons]
    exact ⟨by simp, List.pairwise_map.mpr (ih.imp fun h => Nat.succ_lt_succ h)⟩

namespace Pattern

/-- The directories above a path, with the outermost first and without the root. -/
theorem dirsAbove_ofSegments {before : List String} {last : String}
    (h : ∀ n ∈ before ++ [last], IsName n) :
    dirsAbove (ofSegments (before ++ [last])) =
      (before.inits.filter (· ≠ [])).map ofSegments := by
  have hname : ∀ above ∈ before.inits, ∀ n ∈ above, IsName n := fun above habove n hn =>
    h n (List.mem_append_left _ (((List.mem_inits _ _).mp habove).subset hn))
  have hroot : (before.inits.map ofSegments).filter (!·.isRoot) =
      (before.inits.filter (· ≠ [])).map ofSegments := by
    rw [List.filter_map]
    refine congrArg _ (List.filter_congr fun above habove => ?_)
    rw [Function.comp_apply, Bool.eq_iff_iff]
    simp [← Bool.not_eq_true, isRoot_iff, ofSegments_eq_root_iff (hname above habove)]
  rw [dirsAbove, ancestors_ofSegments h, List.reverse_reverse, hroot, List.filterMap_map]
  refine List.filterMap_eq_map_iff_forall_eq_some.mpr fun above habove => ?_
  exact (canonical_ofSegments (hname above (List.mem_of_mem_filter habove))).normalize?_text

/-- No match lies above the outermost one. -/
theorem outermost?_eq_some {p : Pattern} {file dir : ProjectPath} (hfile : file.Canonical)
    (h : p.outermost? file = some dir) :
    dir.Canonical ∧ dir ≠ root ∧ p.isMatch dir = true ∧
      ∀ d : ProjectPath, d.Canonical → d ≠ root → d.segments <+: dir.segments →
        p.isMatch d = true → d = dir := by
  obtain ⟨names, hnames, rfl⟩ := hfile
  rcases List.eq_nil_or_concat' names with rfl | ⟨before, last, rfl⟩
  · simp [outermost?, dirsAbove, ancestors, isRoot, root, ofSegments] at h
  rw [outermost?, dirsAbove_ofSegments hnames, List.find?_map, Option.map_eq_some_iff] at h
  obtain ⟨above, hfound, rfl⟩ := h
  obtain ⟨hinits, hnonempty⟩ := List.mem_filter.mp (List.mem_of_find?_eq_some hfound)
  have hpre : above <+: before := (List.mem_inits _ _).mp hinits
  have habove : ∀ n ∈ above, IsName n := fun n hn =>
    hnames n (List.mem_append_left _ (hpre.subset hn))
  have hne : ofSegments above ≠ root := by
    rw [Ne, ofSegments_eq_root_iff habove]
    simpa using hnonempty
  have hmatches := List.find?_some hfound
  rw [Function.comp_apply] at hmatches
  refine ⟨canonical_ofSegments habove, hne, hmatches, fun d hd hroot hbelow hmatch => ?_⟩
  rw [segments_ofSegments habove] at hbelow
  have hne : d.segments ≠ [] := by
    intro hnil
    exact hroot (by rw [← hd.ofSegments_segments, hnil, ofSegments_nil])
  obtain ⟨-, outer, inner, heq, houter⟩ := List.find?_eq_some_iff_append.mp hfound
  have hmem : d.segments ∈ outer ++ above :: inner := by
    rw [← heq, List.mem_filter]
    exact ⟨(List.mem_inits _ _).mpr (hbelow.trans hpre), by simpa using hne⟩
  have hsorted : (outer ++ above :: inner).Pairwise fun a b => a.length < b.length :=
    heq ▸ (pairwise_length_inits before).filter _
  rcases List.mem_append.mp hmem with hmem | hmem
  · have hno := houter _ hmem
    rw [Function.comp_apply, hd.ofSegments_segments, hmatch] at hno
    simp at hno
  · rcases List.mem_cons.mp hmem with hsame | hmem
    · rw [← hsame, hd.ofSegments_segments]
    · have hlonger := (List.pairwise_cons.mp (List.pairwise_append.mp hsorted).2.1).1 _ hmem
      exact absurd hbelow.length_le (by omega)

/-- Each segment of a plain pattern takes one name. -/
theorem length_of_isPlain {segments : List PatternSegment} {names : List String}
    (hplain : isPlain segments = true) (h : PatternSegment.matchPath segments names = true) :
    names.length = segments.length := by
  fun_induction isPlain segments generalizing names with
  | case1 =>
    obtain rfl := (PatternSegment.matchPath_nil_iff names).mp h
    rfl
  | case2 glob =>
    obtain ⟨n, rfl, -⟩ := (PatternSegment.matchPath_one_iff (by simp) names).mp h
    rfl
  | case3 name rest ih =>
    obtain ⟨first, others, rfl, hfirst, hothers⟩ :=
      (PatternSegment.matchPath_cons_iff _ _ names).mp h
    obtain ⟨n, rfl, -⟩ := (PatternSegment.matchPath_one_iff (by simp) first).mp hfirst
    simp [ih hplain hothers]
  | case4 => cases hplain

end Pattern

/-- Directories none of which lies in another one. -/
structure Apart (roots : List ProjectPath) : Prop where
  canonical : ∀ r ∈ roots, r.Canonical
  eq_of_prefix : ∀ r ∈ roots, ∀ r' ∈ roots, r.segments <+: r'.segments → r = r'

section Roots

variable {t : Tree} (ht : t.WellFormed) (p : Pattern) (ignore : IgnoreSet)
include ht

theorem moduleRoots_apart : Apart (t.view.moduleRoots p ignore) := by
  unfold FileView.moduleRoots
  split_ifs with hplain
  · have hmatch : ∀ r ∈ t.view.matchDirs p ignore, r.Canonical ∧
        r.segments.length = p.segments.length := by
      intro r hr
      obtain ⟨hdir, -, -, hmatch⟩ := (FileView.mem_matchDirs ht p r).mp hr
      exact ⟨ht.canonical_of_isDir hdir,
        Pattern.length_of_isPlain hplain ((Pattern.isMatch_iff p r).mp hmatch).2⟩
    refine ⟨fun r hr => (hmatch r hr).1, fun r hr r' hr' hpre => ?_⟩
    have hsegments : r.segments = r'.segments :=
      hpre.eq_of_length ((hmatch r hr).2.trans (hmatch r' hr').2.symm)
    rw [← (hmatch r hr).1.ofSegments_segments, hsegments, (hmatch r' hr').1.ofSegments_segments]
  · have houtermost : ∀ r ∈ Ascending.ofList
        ((t.view.matchFiles p.below ignore).filterMap p.outermost?),
        ∃ file : ProjectPath, file.Canonical ∧ p.outermost? file = some r := by
      intro r hr
      obtain ⟨file, hfile, hr⟩ := List.mem_filterMap.mp ((Ascending.mem_ofList _ _).mp hr)
      exact ⟨file, ht.canonical_of_isFile ((FileView.mem_matchFiles ht _ _).mp hfile).1, hr⟩
    refine ⟨fun r hr => ?_, fun r hr r' hr' hpre => ?_⟩
    · obtain ⟨file, hfile, hr⟩ := houtermost r hr
      exact (Pattern.outermost?_eq_some hfile hr).1
    · obtain ⟨file, hfile, hr⟩ := houtermost r hr
      obtain ⟨file', hfile', hr'⟩ := houtermost r' hr'
      obtain ⟨hcanonical, hroot, hmatch, -⟩ := Pattern.outermost?_eq_some hfile hr
      obtain ⟨-, -, -, hfirst⟩ := Pattern.outermost?_eq_some hfile' hr'
      exact hfirst r hcanonical hroot hpre hmatch

end Roots

namespace PublicApi

/-- Where modules are apart, a path lies in one of them at most. -/
theorem moduleOf?_eq_some_iff {roots : List ProjectPath} {path r : ProjectPath}
    (hroots : Apart roots) (hpath : path.Canonical) :
    moduleOf? roots path = some r ↔ r ∈ roots ∧ path.startsWith r = true ∧ r ≠ path := by
  have hmem : ∀ r', r' ∈ (roots.filter fun r => path.startsWith r && r != path) ↔
      r' ∈ roots ∧ path.startsWith r' = true ∧ r' ≠ path := by
    simp
  constructor
  · intro h
    exact (hmem r).mp (List.mem_of_getLast? h)
  · intro h
    have hne : (roots.filter fun r => path.startsWith r && r != path) ≠ [] :=
      List.ne_nil_of_mem ((hmem r).mpr h)
    obtain ⟨hr, hstart, -⟩ := h
    obtain ⟨hlast, hlaststart, -⟩ := (hmem _).mp (List.getLast_mem hne)
    rw [startsWith_iff hpath (hroots.canonical _ hr)] at hstart
    rw [startsWith_iff hpath (hroots.canonical _ hlast)] at hlaststart
    rw [moduleOf?, List.getLast?_eq_some_getLast hne]
    refine congrArg some ?_
    rcases List.prefix_or_prefix_of_prefix hstart hlaststart with hpre | hpre
    · exact (hroots.eq_of_prefix r hr _ hlast hpre).symm
    · exact hroots.eq_of_prefix _ hlast r hr hpre

end PublicApi
end TreeLint
