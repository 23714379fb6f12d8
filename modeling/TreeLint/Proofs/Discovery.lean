import Mathlib.Data.Finset.Max
import TreeLint.Proofs.ModuleRoots

/-!
Which directories are modules. Where nothing is ignored they are the outermost matches of the
pattern, and it makes no difference whether these are looked for among the directories or from the
files that lie below them.
-/
namespace TreeLint

open ProjectPath

namespace Pattern

/-- The pattern for what lies below the matches can be read off the text of a pattern. -/
theorem parse_below {text : String} {p : Pattern} (h : parse text = .ok p) :
    parse (p.text ++ "/**") = .ok p.below := by
  obtain ⟨rfl, read, hread, hsegments⟩ := parse_ok h
  have hlast : segment (p.text ++ "/**") "**" = .ok .recursive := rfl
  have hwhole : (parts (p.text ++ "/**")).mapM (segment (p.text ++ "/**")) =
      .ok (read ++ [.recursive]) := by
    rw [parts_append_recursive, List.mapM_append, mapM_segment_congr hread, List.mapM_cons, hlast]
    rfl
  have hpushed : List.foldr push [] (read ++ [.recursive]) = p.below.segments := by
    rw [List.foldr_append]
    change read.foldr push [PatternSegment.recursive] = _
    rw [foldr_push_recursive, ← hsegments, below]
    simp [endsRecursive_iff]
  rw [parse, hwhole]
  exact congrArg (fun segments => Except.ok (Pattern.mk (p.text ++ "/**") segments)) hpushed

theorem endsRecursive_below (p : Pattern) : p.below.endsRecursive = true := by
  rw [endsRecursive_iff, below]
  split_ifs with h
  · exact (endsRecursive_iff p).mp h
  · simp

theorem isMatch_below_of_isMatch {p : Pattern} {path : ProjectPath} (h : p.isMatch path = true) :
    p.below.isMatch path = true := by
  obtain ⟨hne, hmatch⟩ := (isMatch_iff p path).mp h
  rw [isMatch_iff, below]
  split_ifs
  · exact ⟨hne, hmatch⟩
  · exact ⟨by simp, (PatternSegment.matchPath_append_iff _ _ _).mpr
      ⟨path.segments, [], by simp, hmatch, PatternSegment.matchPath_recursive []⟩⟩

theorem mem_dirsAbove {d file : ProjectPath} (hfile : file.Canonical) :
    d ∈ dirsAbove file ↔ d.Canonical ∧ d ≠ root ∧ d.segments <+: file.segments.dropLast := by
  have hroot : ∀ d : ProjectPath, d.Canonical → d ≠ root → d.segments ≠ [] := by
    intro d hd hne hnil
    exact hne (by rw [← hd.ofSegments_segments, hnil, ofSegments_nil])
  obtain ⟨names, hnames, rfl⟩ := hfile
  rw [segments_ofSegments hnames]
  rcases List.eq_nil_or_concat' names with rfl | ⟨before, last, rfl⟩
  · have hnone : dirsAbove root = [] := by simp [dirsAbove, ancestors, isRoot, root]
    rw [ofSegments_nil, hnone, List.dropLast_nil, List.prefix_nil]
    refine iff_of_false List.not_mem_nil ?_
    rintro ⟨hd, hne, hnil⟩
    exact hroot d hd hne hnil
  · rw [dirsAbove_ofSegments hnames, List.dropLast_concat]
    simp only [List.mem_map, List.mem_filter, List.mem_inits, decide_eq_true_eq]
    constructor
    · rintro ⟨above, ⟨hpre, hne⟩, rfl⟩
      have habove : ∀ n ∈ above, IsName n := fun n hn =>
        hnames n (List.mem_append_left _ (hpre.subset hn))
      rw [Ne, ofSegments_eq_root_iff habove, segments_ofSegments habove]
      exact ⟨canonical_ofSegments habove, hne, hpre⟩
    · rintro ⟨hd, hne, hpre⟩
      exact ⟨d.segments, ⟨hpre, hroot d hd hne⟩, hd.ofSegments_segments⟩

end Pattern

namespace Tree

/-- Below every directory but the root lies a file that is no directory itself. -/
theorem WellFormed.exists_file_below {t : Tree} (ht : t.WellFormed) {d : ProjectPath}
    (hdir : t.isDir d = true) (hne : d ≠ root) :
    ∃ f, t.isFile f = true ∧ t.isDir f = false ∧ d.segments <+: f.segments.dropLast := by
  obtain ⟨names, hnames, rfl⟩ := ht.canonical_of_isDir hdir
  rw [segments_ofSegments hnames]
  obtain ⟨p, hp, hbelow⟩ := (ht.isDir_ofSegments hnames).mp hdir
  -- of the files below the directory, one with the most names has nothing below it
  have hsome : (t.paths.toFinset.filter fun f => names <+: f.segments.dropLast).Nonempty :=
    ⟨p, by simp [hp, hbelow]⟩
  obtain ⟨f, hf, hmost⟩ := Finset.exists_max_image _ (fun f : ProjectPath => f.segments.length) hsome
  simp only [Finset.mem_filter, List.mem_toFinset] at hf hmost
  obtain ⟨hfile, hfbelow⟩ := hf
  refine ⟨f, (isFile_iff t f).mpr hfile, ?_, hfbelow⟩
  rw [← Bool.not_eq_true]
  intro hfdir
  have hf := ht.canonical f hfile
  rw [← hf.ofSegments_segments, ht.isDir_ofSegments hf.isName] at hfdir
  obtain ⟨q, hq, hfq⟩ := hfdir
  have hlength := hmost q ⟨hq, hfbelow.trans ((List.dropLast_prefix _).trans hfq)⟩
  have hshorter := hfq.length_le
  have hdeep := hfbelow.length_le
  have hpos : 0 < names.length :=
    List.length_pos_iff.mpr fun hnil => hne ((ofSegments_eq_root_iff hnames).mpr hnil)
  rw [List.length_dropLast] at hshorter hdeep
  omega

/-- A directory that matches a pattern and lies in no other match. The root does not count. -/
structure Outermost (t : Tree) (p : Pattern) (d : ProjectPath) : Prop where
  isDir : t.isDir d = true
  ne_root : d ≠ root
  matched : p.isMatch d = true
  first : ∀ above, t.isDir above = true → above ≠ root → d.startsWith above = true →
    p.isMatch above = true → above = d

/-- The outermost match is what is found above a file first. -/
theorem WellFormed.outermost?_eq_some_iff {t : Tree} (ht : t.WellFormed) {p : Pattern}
    {file d : ProjectPath} (hfile : t.isFile file = true) :
    p.outermost? file = some d ↔ t.Outermost p d ∧ d.segments <+: file.segments.dropLast := by
  have hcanonical := ht.canonical_of_isFile hfile
  constructor
  · intro h
    obtain ⟨hd, hroot, hmatch, hfirst⟩ := Pattern.outermost?_eq_some hcanonical h
    obtain ⟨-, -, hpre⟩ := (Pattern.mem_dirsAbove hcanonical).mp (List.mem_of_find?_eq_some h)
    refine ⟨⟨?_, hroot, hmatch, fun above habove hne hstart hmatches => ?_⟩, hpre⟩
    · rw [← hd.ofSegments_segments, ht.isDir_ofSegments hd.isName]
      exact ⟨file, (t.isFile_iff file).mp hfile, hpre⟩
    · exact hfirst above (ht.canonical_of_isDir habove) hne (isPrefix_of_startsWith hstart) hmatches
  · rintro ⟨⟨hdir, hroot, hmatch, hfirst⟩, hpre⟩
    have hd := ht.canonical_of_isDir hdir
    have hmem : d ∈ Pattern.dirsAbove file := (Pattern.mem_dirsAbove hcanonical).mpr ⟨hd, hroot, hpre⟩
    obtain ⟨found, hfound⟩ : ∃ found, p.outermost? file = some found :=
      Option.isSome_iff_exists.mp (List.find?_isSome.mpr ⟨d, hmem, hmatch⟩)
    obtain ⟨hcanon, hne, hmatches, hleast⟩ := Pattern.outermost?_eq_some hcanonical hfound
    obtain ⟨-, -, hpre'⟩ :=
      (Pattern.mem_dirsAbove hcanonical).mp (List.mem_of_find?_eq_some hfound)
    rw [hfound]
    refine congrArg some ?_
    -- both lie above the file, so that one of them lies in the other
    rcases List.prefix_or_prefix_of_prefix hpre hpre' with hin | hin
    · exact (hleast d hd hroot hin hmatch).symm
    · refine hfirst found ?_ hne ((startsWith_iff hd hcanon).mpr hin) hmatches
      rw [← hcanon.ofSegments_segments]
      exact ht.isDir_above hd.isName hin (by rwa [hd.ofSegments_segments])

end Tree

/-- Where directories are apart, a path lies in one of them at most. -/
theorem Apart.eq_of_startsWith {roots : List ProjectPath} (h : Apart roots)
    {path r r' : ProjectPath} (hr : r ∈ roots) (hr' : r' ∈ roots)
    (hstart : path.startsWith r = true) (hstart' : path.startsWith r' = true) : r = r' := by
  rcases List.prefix_or_prefix_of_prefix (isPrefix_of_startsWith hstart)
    (isPrefix_of_startsWith hstart') with hin | hin
  · exact h.eq_of_prefix r hr r' hr' hin
  · exact (h.eq_of_prefix r' hr' r hr hin).symm

namespace FileView

theorem moduleRoots_sorted (view : FileView) (p : Pattern) (ignore : IgnoreSet) :
    (view.moduleRoots p ignore).Pairwise (· < ·) := by
  unfold moduleRoots
  split_ifs
  · exact matchDirs_sorted view p ignore
  · exact Ascending.ofList_sorted _

section Roots

variable {t : Tree} (ht : t.WellFormed) (p : Pattern)
include ht

/-- The outermost matches are those that are found from the files below them. -/
theorem mem_outermost_matchFiles (d : ProjectPath) :
    d ∈ Ascending.ofList ((t.view.matchFiles p.below .empty).filterMap p.outermost?) ↔
      t.Outermost p d := by
  rw [Ascending.mem_ofList, List.mem_filterMap]
  constructor
  · rintro ⟨file, hfile, houter⟩
    have hexists := ((mem_matchFiles ht _ _).mp hfile).1
    exact ((ht.outermost?_eq_some_iff hexists).mp houter).1
  · intro h
    obtain ⟨file, hfile, hnodir, hpre⟩ := ht.exists_file_below h.isDir h.ne_root
    have hcanonical := ht.canonical_of_isFile hfile
    refine ⟨file, (mem_matchFiles ht _ _).mpr ⟨hfile, hnodir, ?_, ?_⟩,
      (ht.outermost?_eq_some_iff hfile).mpr ⟨h, hpre⟩⟩
    · simp [IgnoreSet.empty, IgnoreSet.isIgnored]
    · rw [if_pos p.endsRecursive_below]
      exact Pattern.isMatch_below p.endsRecursive_below
        (Pattern.isMatch_below_of_isMatch h.matched) (hcanonical.segments_parent ▸ hpre)

/-- The matches of a plain pattern are all outermost. -/
theorem mem_matchDirs_plain (hplain : Pattern.isPlain p.segments = true) (d : ProjectPath) :
    d ∈ t.view.matchDirs p .empty ↔ t.Outermost p d := by
  have hkept : IgnoreSet.empty.isIgnored d = false := by
    simp [IgnoreSet.empty, IgnoreSet.isIgnored]
  have hlength : ∀ path, p.isMatch path = true → path.segments.length = p.segments.length :=
    fun path hmatch => Pattern.length_of_isPlain hplain ((Pattern.isMatch_iff p path).mp hmatch).2
  rw [mem_matchDirs ht, hkept]
  constructor
  · rintro ⟨hdir, hroot, -, hmatch⟩
    refine ⟨hdir, hroot, hmatch, fun above habove _ hstart hmatches => ?_⟩
    have hsame : above.segments = d.segments :=
      (isPrefix_of_startsWith hstart).eq_of_length
        ((hlength above hmatches).trans (hlength d hmatch).symm)
    rw [← (ht.canonical_of_isDir habove).ofSegments_segments, hsame,
      (ht.canonical_of_isDir hdir).ofSegments_segments]
  · rintro ⟨hdir, hroot, hmatch, -⟩
    exact ⟨hdir, hroot, rfl, hmatch⟩

theorem mem_moduleRoots (d : ProjectPath) :
    d ∈ t.view.moduleRoots p .empty ↔ t.Outermost p d := by
  unfold moduleRoots
  split_ifs with hplain
  · exact mem_matchDirs_plain ht p hplain d
  · exact mem_outermost_matchFiles ht p d

end Roots

/-- Modules are in ascending order, and a path lies in one of them at most. Where nothing is ignored
they are the outermost matches of the pattern. These are found from the files that match the text of
the pattern with a further `**`, and for a plain pattern they are all directories that match. -/
theorem moduleRoots_outermost (entries : List (String × String)) {text : String} {p : Pattern}
    (hparse : Pattern.parse text = .ok p) :
    (∀ ignore, ((Tree.ofList entries).view.moduleRoots p ignore).Pairwise (· < ·) ∧
      ∀ r ∈ (Tree.ofList entries).view.moduleRoots p ignore,
        ∀ r' ∈ (Tree.ofList entries).view.moduleRoots p ignore,
          (r'.startsWith r = true → r = r') ∧
          ∀ path : ProjectPath, path.startsWith r = true → path.startsWith r' = true → r = r') ∧
    (∀ d, d ∈ (Tree.ofList entries).view.moduleRoots p .empty ↔
      (Tree.ofList entries).Outermost p d) ∧
    (∃ expanded, Pattern.parse (p.text ++ "/**") = .ok expanded ∧
      Ascending.ofList (((Tree.ofList entries).view.matchFiles expanded .empty).filterMap
        p.outermost?) = (Tree.ofList entries).view.moduleRoots p .empty) ∧
    (Pattern.isPlain p.segments = true → (Tree.ofList entries).view.matchDirs p .empty =
      (Tree.ofList entries).view.moduleRoots p .empty) := by
  have ht := Tree.wellFormed_ofList entries
  refine ⟨fun ignore => ⟨moduleRoots_sorted _ p ignore, fun r hr r' hr' => ?_⟩,
    mem_moduleRoots ht p, ⟨p.below, Pattern.parse_below hparse, ?_⟩, fun hplain => ?_⟩
  · have hapart := moduleRoots_apart ht p ignore
    exact ⟨fun hin => hapart.eq_of_prefix r hr r' hr' (isPrefix_of_startsWith hin),
      fun path hstart hstart' => hapart.eq_of_startsWith hr hr' hstart hstart'⟩
  · refine (Ascending.ofList_sorted _).eq_of_mem_iff (moduleRoots_sorted _ p _) fun d => ?_
    rw [mem_outermost_matchFiles ht, mem_moduleRoots ht]
  · refine (matchDirs_sorted _ p _).eq_of_mem_iff (moduleRoots_sorted _ p _) fun d => ?_
    rw [mem_matchDirs_plain ht p hplain, mem_moduleRoots ht]

/-- A project in which a match lies in another one. -/
def nestedProject : List (String × String) :=
  [("src/a/core/x.ts", ""), ("src/a/core/b/core/y.ts", ""), ("src/core/z.ts", ""), ("core", "")]

theorem moduleRoots_outermost_nested :
    Pattern.parse "**/core" = .ok ⟨"**/core", [.recursive, .literal "core"]⟩ ∧
    (Tree.ofList nestedProject).view.moduleRoots ⟨"**/core", [.recursive, .literal "core"]⟩ .empty =
      [⟨"src/a/core"⟩, ⟨"src/core"⟩] ∧
    ∀ d, d ∈ (Tree.ofList nestedProject).view.moduleRoots
        ⟨"**/core", [.recursive, .literal "core"]⟩ .empty ↔
      (Tree.ofList nestedProject).Outermost ⟨"**/core", [.recursive, .literal "core"]⟩ d := by
  have hparse : Pattern.parse "**/core" = .ok ⟨"**/core", [.recursive, .literal "core"]⟩ := rfl
  exact ⟨hparse, by decide +kernel, (moduleRoots_outermost nestedProject hparse).2.1⟩

end FileView
end TreeLint
