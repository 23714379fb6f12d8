import TreeLint.Proofs.Walk

/-!
What a pattern selects from a tree, as the matcher of single paths tells it: the files and the
directories found by a walk are those that match and are not ignored. The two disagree only on a
file that stands in the place of the directory of a last `**`.
-/
namespace TreeLint

open ProjectPath

namespace FileView

/-- Two views that list the same in each directory that a walk may enter. -/
structure AgreesOpen (ignore : IgnoreSet) (v w : FileView) : Prop where
  depth : v.depth = w.depth
  entries : ∀ d, d = root ∨ ignore.prunes d = false → v.entries d = w.entries d

theorem isOpen_of_mem_reach {view : FileView} {ignore : IgnoreSet} (n : ℕ)
    {found front : List ProjectPath} (hfound : ∀ d ∈ found, d = root ∨ ignore.prunes d = false)
    {x : ProjectPath} (hx : x ∈ view.reach ignore n found front) :
    x = root ∨ ignore.prunes x = false := by
  induction n generalizing found front with
  | zero => exact hfound x hx
  | succ n ih =>
    refine ih (fun d hd => ?_) hx
    rcases List.mem_append.mp hd with hd | hd
    · exact hfound d hd
    · obtain ⟨⟨-, -, -, hopen⟩, -⟩ := (mem_fresh view found front d).mp hd
      exact Or.inr hopen

/-- Every step of a walk ends in directories that it may enter. -/
theorem isOpen_of_mem_step {view : FileView} {ignore : IgnoreSet} {dirs : List ProjectPath}
    {segment : PatternSegment} (hdirs : ∀ d ∈ dirs, d = root ∨ ignore.prunes d = false)
    {x : ProjectPath} (hx : x ∈ view.step ignore dirs segment) :
    x = root ∨ ignore.prunes x = false := by
  cases segment with
  | recursive => exact isOpen_of_mem_reach view.depth hdirs hx
  | literal name => exact Or.inr (by simpa using (List.mem_filter.mp hx).2)
  | wildcard glob => exact Or.inr (by simpa using (List.mem_filter.mp hx).2)

theorem isOpen_of_mem_foldl_step {view : FileView} {ignore : IgnoreSet}
    (segments : List PatternSegment) {dirs : List ProjectPath}
    (hdirs : ∀ d ∈ dirs, d = root ∨ ignore.prunes d = false) {x : ProjectPath}
    (hx : x ∈ segments.foldl (view.step ignore) dirs) : x = root ∨ ignore.prunes x = false := by
  induction segments generalizing dirs with
  | nil => exact hdirs x hx
  | cons segment rest ih => exact ih (fun d hd => isOpen_of_mem_step hdirs hd) hx

section Agreement

variable {ignore : IgnoreSet} {v w : FileView} (h : AgreesOpen ignore v w)
include h

theorem subdirs_congr {front : List ProjectPath}
    (hfront : ∀ d ∈ front, d = root ∨ ignore.prunes d = false) :
    front.flatMap v.subdirs = front.flatMap w.subdirs := by
  refine List.flatMap_congr fun d hd => ?_
  rw [subdirs, subdirs, h.entries d (hfront d hd)]

theorem reach_congr (n : ℕ) {found front : List ProjectPath}
    (hfront : ∀ d ∈ front, d = root ∨ ignore.prunes d = false) :
    v.reach ignore n found front = w.reach ignore n found front := by
  induction n generalizing found front with
  | zero => rfl
  | succ n ih =>
    simp only [reach]
    rw [subdirs_congr h hfront]
    apply ih
    intro d hd
    obtain ⟨⟨-, -, -, hopen⟩, -⟩ := (mem_fresh w found front d).mp hd
    exact Or.inr hopen

theorem step_congr {dirs : List ProjectPath} (segment : PatternSegment)
    (hdirs : ∀ d ∈ dirs, d = root ∨ ignore.prunes d = false) :
    v.step ignore dirs segment = w.step ignore dirs segment := by
  have hmatching : dirs.flatMap (v.matchingDirs segment) =
      dirs.flatMap (w.matchingDirs segment) := by
    refine List.flatMap_congr fun d hd => ?_
    rw [matchingDirs, matchingDirs, h.entries d (hdirs d hd)]
  cases segment with
  | recursive =>
    simp only [step, dirsFrom, h.depth]
    exact reach_congr h w.depth hdirs
  | literal name => simp only [step, hmatching]
  | wildcard glob => simp only [step, hmatching]

theorem foldl_step_congr (segments : List PatternSegment) {dirs : List ProjectPath}
    (hdirs : ∀ d ∈ dirs, d = root ∨ ignore.prunes d = false) :
    segments.foldl (v.step ignore) dirs = segments.foldl (w.step ignore) dirs := by
  induction segments generalizing dirs with
  | nil => rfl
  | cons segment rest ih =>
    rw [List.foldl_cons, List.foldl_cons, step_congr h segment hdirs]
    exact ih fun d hd => isOpen_of_mem_step hdirs hd

/-- What lies in a pruned directory makes no difference to a walk. -/
theorem walkDirs_congr (segments : List PatternSegment) :
    v.walkDirs ignore segments [root] = w.walkDirs ignore segments [root] := by
  rw [walkDirs, walkDirs, foldl_step_congr h segments (by simp)]

theorem walkFiles_congr (segments : List PatternSegment) :
    v.walkFiles ignore segments [root] = w.walkFiles ignore segments [root] := by
  have hfound (before : List PatternSegment) (last : PatternSegment) :
      (before.foldl (v.step ignore) [root]).flatMap (v.matchingFiles last) =
        (before.foldl (w.step ignore) [root]).flatMap (w.matchingFiles last) := by
    rw [foldl_step_congr h before (by simp)]
    refine List.flatMap_congr fun d hd => ?_
    rw [matchingFiles, matchingFiles,
      h.entries d (isOpen_of_mem_foldl_step before (by simp) hd)]
  rcases List.eq_nil_or_concat' segments with rfl | ⟨before, last, rfl⟩
  · rfl
  by_cases hlast : last = .recursive
  · subst hlast
    rw [walkFiles_recursive, walkFiles_recursive, funext v.files_eq, funext w.files_eq]
    exact hfound _ .recursive
  · rw [walkFiles_concat _ _ hlast, walkFiles_concat _ _ hlast]
    exact hfound before last

theorem matchDirs_congr (p : Pattern) : v.matchDirs p ignore = w.matchDirs p ignore := by
  rw [matchDirs, matchDirs, walkDirs_congr h]

theorem matchFiles_congr (p : Pattern) : v.matchFiles p ignore = w.matchFiles p ignore := by
  rw [matchFiles, matchFiles, walkFiles_congr h]

end Agreement

/-- The directories that a pattern selects are those that match it and are not ignored, in ascending
order. No pruned directory is looked into: any other listing of it leads to the same result. -/
theorem matchDirs_exact (entries : List (String × String)) (p : Pattern) (ignore : IgnoreSet) :
    ((Tree.ofList entries).view.matchDirs p ignore).Pairwise (· < ·) ∧
    (∀ d, d ∈ (Tree.ofList entries).view.matchDirs p ignore ↔
      (Tree.ofList entries).isDir d ∧ d ≠ root ∧ p.isMatch d ∧ ¬ignore.isIgnored d) ∧
    (∀ v : FileView, v.AgreesOpen ignore (Tree.ofList entries).view →
      v.matchDirs p ignore = (Tree.ofList entries).view.matchDirs p ignore) := by
  refine ⟨matchDirs_sorted _ p ignore, fun d => ?_, fun v hv => ?_⟩
  · rw [mem_matchDirs (Tree.wellFormed_ofList entries), Bool.not_eq_true, and_comm (b := _ = true)]
  · rw [matchDirs, matchDirs, walkDirs_congr hv]

/-- The files that a pattern selects are those that match it and are not ignored, in ascending
order; where the pattern ends in `**` it is the directory of the file that has to match. So nothing
but ignored files is lost by pruning. -/
theorem matchFiles_exact (entries : List (String × String)) (p : Pattern) (ignore : IgnoreSet) :
    ((Tree.ofList entries).view.matchFiles p ignore).Pairwise (· < ·) ∧
    (∀ f, f ∈ (Tree.ofList entries).view.matchFiles p ignore ↔
      (Tree.ofList entries).isFile f ∧ ¬(Tree.ofList entries).isDir f ∧ ¬ignore.isIgnored f ∧
        (¬p.endsRecursive ∧ p.isMatch f ∨ p.endsRecursive ∧ p.isMatch f.parent)) ∧
    (Tree.ofList entries).view.matchFiles p ignore =
      ((Tree.ofList entries).view.matchFiles p .empty).filter (!ignore.isIgnored ·) := by
  have ht := Tree.wellFormed_ofList entries
  refine ⟨matchFiles_sorted _ p ignore, fun f => ?_, ?_⟩
  · rw [mem_matchFiles ht]
    cases p.endsRecursive <;> simp
  · refine (matchFiles_sorted _ p ignore).eq_of_mem_iff
      ((matchFiles_sorted _ p .empty).filter _) fun f => ?_
    have hnone : IgnoreSet.empty.isIgnored f = false := by
      simp [IgnoreSet.empty, IgnoreSet.isIgnored]
    rw [List.mem_filter, mem_matchFiles ht, mem_matchFiles ht, hnone, Bool.not_eq_true']
    tauto

end FileView

namespace Tree

/-- No entry puts a file at the root, or at a directory above the file of another entry. -/
def Unnested (entries : List (String × String)) : Prop :=
  ∀ p ∈ targets entries, p ≠ root ∧ ∀ q ∈ targets entries, q ≠ p → ¬q.startsWith p

instance (entries : List (String × String)) : Decidable (Unnested entries) :=
  inferInstanceAs (Decidable (∀ p ∈ targets entries,
    p ≠ root ∧ ∀ q ∈ targets entries, q ≠ p → ¬q.startsWith p))

theorem Unnested.not_isDir {entries : List (String × String)} (h : Unnested entries)
    {f : ProjectPath} (hf : f ∈ (ofList entries).paths) : (ofList entries).isDir f = false := by
  have ht := wellFormed_ofList entries
  rw [← Bool.not_eq_true]
  intro hdir
  obtain ⟨names, hnames, rfl⟩ := ht.canonical f hf
  obtain ⟨q, hq, hbelow⟩ := (ht.isDir_ofSegments hnames).mp hdir
  have hqcanon := ht.canonical q hq
  obtain ⟨hroot, habove⟩ := h _ ((mem_paths_ofList entries _).mp hf)
  have hne : q ≠ ofSegments names := by
    rintro rfl
    rw [segments_ofSegments hnames] at hbelow
    have hlen := hbelow.length_le
    have hpos : names ≠ [] := fun hnil => hroot (by simp [hnil])
    have hpos' := List.length_pos_iff.mpr hpos
    rw [List.length_dropLast] at hlen
    omega
  refine habove q ((mem_paths_ofList entries q).mp hq) hne ?_
  refine (startsWith_iff hqcanon (canonical_ofSegments hnames)).mpr ?_
  rw [segments_ofSegments hnames]
  exact hbelow.trans (List.dropLast_prefix _)

end Tree

namespace FileView

/-- The walk finds all files that the matcher accepts, except those which only the last `**` of the
pattern lets through, by standing for no directory level at all: such a file is in the place of the
directory that the walk would enter. -/
theorem matchFiles_eq_filter_iff (entries : List (String × String)) (p : Pattern)
    (ignore : IgnoreSet) (h : Tree.Unnested entries) :
    (Tree.ofList entries).paths.Pairwise (· < ·) ∧
    ((Tree.ofList entries).view.matchFiles p ignore =
        (Tree.ofList entries).paths.filter (fun f => p.isMatch f && !ignore.isIgnored f) ↔
      ∀ f ∈ (Tree.ofList entries).paths, ¬ignore.isIgnored f → p.endsRecursive → p.isMatch f →
        p.isMatch f.parent) := by
  have ht := Tree.wellFormed_ofList entries
  have hmem (f : ProjectPath) : f ∈ (Tree.ofList entries).view.matchFiles p ignore ↔
      f ∈ (Tree.ofList entries).paths ∧ ignore.isIgnored f = false ∧
        p.isMatch (if p.endsRecursive then f.parent else f) = true := by
    rw [mem_matchFiles ht, Tree.isFile_iff]
    exact ⟨fun ⟨hf, _, hrest⟩ => ⟨hf, hrest⟩, fun ⟨hf, hrest⟩ => ⟨hf, h.not_isDir hf, hrest⟩⟩
  refine ⟨ht.files_sorted, ?_⟩
  constructor
  · intro heq f hf hkept hlast hmatch
    have hfound : f ∈ (Tree.ofList entries).view.matchFiles p ignore := by
      rw [heq, List.mem_filter]
      exact ⟨hf, by simp [hmatch, hkept]⟩
    have hresult := ((hmem f).mp hfound).2.2
    rwa [if_pos hlast] at hresult
  · intro hlevels
    refine (matchFiles_sorted _ p ignore).eq_of_mem_iff (ht.files_sorted.filter _) fun f => ?_
    rw [hmem, List.mem_filter, Bool.and_eq_true, Bool.not_eq_true']
    refine and_congr_right fun hf => ?_
    by_cases hlast : p.endsRecursive = true
    · rw [if_pos hlast]
      constructor
      · rintro ⟨hkept, hmatch⟩
        have hbelow : f.parent.segments <+: f.segments := by
          obtain ⟨names, hnames, rfl⟩ := ht.canonical f hf
          rw [(canonical_ofSegments hnames).parent_eq, segments_ofSegments hnames,
            segments_ofSegments fun n hn => hnames n ((List.dropLast_prefix names).subset hn)]
          exact List.dropLast_prefix names
        exact ⟨Pattern.isMatch_below hlast hmatch hbelow, hkept⟩
      · rintro ⟨hmatch, hkept⟩
        exact ⟨hkept, hlevels f hf (by simp [hkept]) hlast hmatch⟩
    · rw [if_neg hlast]
      exact and_comm

/-- A project with a generated directory, which is left out. -/
def generatedProject : List (String × String) :=
  [("src/lib/b.ts", ""), ("src/a.ts", ""), ("src/gen/c.ts", ""), ("d.ts", "")]

theorem matchFiles_eq_filter_src :
    Tree.Unnested generatedProject ∧
    (Tree.ofList generatedProject).view.matchFiles
        ⟨"src/**", [.literal "src", .recursive]⟩ ⟨[], [⟨"src/gen"⟩]⟩ =
      (Tree.ofList generatedProject).paths.filter
        (fun f => Pattern.isMatch ⟨"src/**", [.literal "src", .recursive]⟩ f &&
          !IgnoreSet.isIgnored ⟨[], [⟨"src/gen"⟩]⟩ f) :=
  ⟨by decide, (matchFiles_eq_filter_iff _ _ _ (by decide)).2.mpr (by decide)⟩

/-- A file `src` matches `src/**`, and a walk with that pattern does not find it. -/
theorem matchFiles_misses_bare_file :
    Tree.Unnested [("src", "")] ∧
    Pattern.parse "src/**" = .ok ⟨"src/**", [.literal "src", .recursive]⟩ ∧
    (Tree.ofList [("src", "")]).view.matchFiles
        ⟨"src/**", [.literal "src", .recursive]⟩ .empty = [] ∧
    (Tree.ofList [("src", "")]).paths.filter
        (fun f => Pattern.isMatch ⟨"src/**", [.literal "src", .recursive]⟩ f &&
          !IgnoreSet.empty.isIgnored f) = [⟨"src"⟩] :=
  ⟨by decide, rfl, by decide, by decide⟩

end FileView
end TreeLint
