import TreeLint.Tree
import TreeLint.Proofs.Ascending
import TreeLint.Proofs.Path

/-!
Every tree that is built by putting in files keeps both of its tables in order, and its directories
are just those above its files. So a listing shows a directory's children, each as what it is.
-/
namespace TreeLint

open ProjectPath

namespace Tree

/-- The files of a tree, in ascending order. -/
def paths (t : Tree) : List ProjectPath := t.files.map (·.1)

/-- What a tree is like after any number of insertions. -/
structure WellFormed (t : Tree) : Prop where
  files_sorted : t.paths.Pairwise (· < ·)
  dirs_sorted : t.dirs.Pairwise (· < ·)
  canonical : ∀ p ∈ t.paths, p.Canonical
  mem_dirs : ∀ d, d ∈ t.dirs ↔ ∃ p ∈ t.paths, d ∈ p.ancestors

theorem isFile_iff (t : Tree) (p : ProjectPath) : t.isFile p = true ↔ p ∈ t.paths :=
  Ascending.find?_isSome p t.files

theorem isDir_iff (t : Tree) (d : ProjectPath) : t.isDir d = true ↔ d ∈ t.dirs := by
  simp [isDir]

theorem paths_filter (t : Tree) (keep : ProjectPath → Bool) :
    t.paths.filter keep = (t.files.filter fun entry => keep entry.1).map (·.1) :=
  List.filter_map

theorem paths_insert {t : Tree} {raw text : String} {p : ProjectPath}
    (h : normalize? raw = some p) : (t.insert raw text).paths = Ascending.insert p t.paths := by
  simp only [insert, h, paths]
  exact Ascending.keys_put p text t.files

theorem dirs_insert {t : Tree} {raw text : String} {p : ProjectPath}
    (h : normalize? raw = some p) :
    (t.insert raw text).dirs = p.ancestors.foldl (fun ds d => Ascending.insert d ds) t.dirs := by
  simp only [insert, h]

theorem insert_of_none {t : Tree} {raw text : String} (h : normalize? raw = none) :
    t.insert raw text = t := by
  simp only [insert, h]

theorem text?_insert {t : Tree} {raw text : String} {f : ProjectPath}
    (hraw : ProjectPath.normalize? raw = some f) (p : ProjectPath) :
    (t.insert raw text).text? p = if p = f then some text else t.text? p := by
  simp only [text?, insert, hraw]
  exact Ascending.find?_put f p text t.files

theorem wellFormed_empty : empty.WellFormed := by
  constructor <;> simp [empty, paths]

theorem WellFormed.insert {t : Tree} (ht : t.WellFormed) (raw text : String) :
    (t.insert raw text).WellFormed := by
  cases h : normalize? raw with
  | none => rwa [insert_of_none h]
  | some p =>
    constructor
    · rw [paths_insert h]
      exact Ascending.insert_sorted p t.paths ht.files_sorted
    · rw [dirs_insert h]
      exact Ascending.foldl_insert_sorted p.ancestors t.dirs ht.dirs_sorted
    · intro q hq
      rw [paths_insert h, Ascending.mem_insert] at hq
      rcases hq with rfl | hq
      · exact canonical_of_normalize? h
      · exact ht.canonical q hq
    · intro d
      rw [dirs_insert h, Ascending.mem_foldl_insert, ht.mem_dirs, paths_insert h]
      simp only [Ascending.mem_insert]
      constructor
      · rintro (hd | ⟨q, hq, hd⟩)
        · exact ⟨p, Or.inl rfl, hd⟩
        · exact ⟨q, Or.inr hq, hd⟩
      · rintro ⟨q, rfl | hq, hd⟩
        · exact Or.inl hd
        · exact Or.inr ⟨q, hq, hd⟩

theorem wellFormed_ofList (entries : List (String × String)) : (ofList entries).WellFormed := by
  suffices h : ∀ t : Tree, t.WellFormed →
      (entries.foldl (fun t e => t.insert e.1 e.2) t).WellFormed from
    h empty wellFormed_empty
  induction entries with
  | nil => exact fun t ht => ht
  | cons entry rest ih => exact fun t ht => ih _ (ht.insert entry.1 entry.2)

/-- The paths that entries put files at. -/
def targets (entries : List (String × String)) : List ProjectPath :=
  entries.filterMap fun e => normalize? e.1

theorem mem_paths_ofList (entries : List (String × String)) (p : ProjectPath) :
    p ∈ (ofList entries).paths ↔ p ∈ targets entries := by
  suffices h : ∀ t : Tree, p ∈ (entries.foldl (fun t e => t.insert e.1 e.2) t).paths ↔
      p ∈ targets entries ∨ p ∈ t.paths by
    simpa [ofList, empty, paths] using h empty
  induction entries with
  | nil => simp [targets]
  | cons entry rest ih =>
    intro t
    rw [List.foldl_cons, ih]
    cases h : normalize? entry.1 with
    | none => simp [targets, h, insert_of_none h]
    | some q =>
      rw [paths_insert h, Ascending.mem_insert]
      simp only [targets, List.filterMap_cons, h, List.mem_cons]
      tauto

namespace WellFormed

variable {t : Tree} (ht : t.WellFormed)
include ht

theorem canonical_of_isFile {p : ProjectPath} (h : t.isFile p = true) : p.Canonical :=
  ht.canonical p ((isFile_iff t p).mp h)

theorem text?_of_mem {entry : ProjectPath × String} (h : entry ∈ t.files) :
    t.text? entry.1 = some entry.2 :=
  Ascending.find?_of_mem (ht.files_sorted.imp fun h => ne_of_irrefl h) h

/-- A directory has fewer names than some file, which starts with them. -/
theorem isDir_ofSegments {names : List String} (h : ∀ n ∈ names, IsName n) :
    t.isDir (ofSegments names) = true ↔ ∃ p ∈ t.paths, names <+: p.segments.dropLast := by
  rw [isDir_iff, ht.mem_dirs]
  refine exists_congr fun p => and_congr_right fun hp => ?_
  rw [mem_ancestors (ht.canonical p hp)]
  constructor
  · rintro ⟨above, habove, heq⟩
    have hsub := fun n hn => (ht.canonical p hp).isName n
      ((List.dropLast_prefix _).subset (habove.subset hn))
    rwa [ofSegments_inj h hsub heq]
  · intro hpre
    exact ⟨names, hpre, rfl⟩

theorem canonical_of_isDir {d : ProjectPath} (h : t.isDir d = true) : d.Canonical := by
  obtain ⟨p, hp, hd⟩ := (ht.mem_dirs d).mp ((isDir_iff t d).mp h)
  obtain ⟨above, habove, rfl⟩ := (mem_ancestors (ht.canonical p hp)).mp hd
  refine canonical_ofSegments fun n hn => (ht.canonical p hp).isName n ?_
  exact (List.dropLast_prefix _).subset (habove.subset hn)

/-- What lies above a directory is a directory. -/
theorem isDir_above {above names : List String} (h : ∀ n ∈ names, IsName n)
    (hpre : above <+: names) (hdir : t.isDir (ofSegments names) = true) :
    t.isDir (ofSegments above) = true := by
  obtain ⟨p, hp, hnames⟩ := (ht.isDir_ofSegments h).mp hdir
  exact (ht.isDir_ofSegments fun n hn => h n (hpre.subset hn)).mpr ⟨p, hp, hpre.trans hnames⟩

/-- What holds a file is a directory. -/
theorem isDir_of_isFile {names : List String} {n : String} (h : ∀ m ∈ names ++ [n], IsName m)
    (hfile : t.isFile (ofSegments (names ++ [n])) = true) : t.isDir (ofSegments names) = true := by
  refine (ht.isDir_ofSegments fun m hm => h m (by simp [hm])).mpr
    ⟨ofSegments (names ++ [n]), (isFile_iff t _).mp hfile, ?_⟩
  rw [segments_ofSegments h, List.dropLast_concat]

/-- No directory lies deeper than the depth of the tree. -/
theorem length_le_depth {names : List String} (h : ∀ n ∈ names, IsName n)
    (hdir : t.isDir (ofSegments names) = true) : names.length ≤ t.depth := by
  obtain ⟨p, hp, hnames⟩ := (ht.isDir_ofSegments h).mp hdir
  obtain ⟨entry, hentry, rfl⟩ := List.mem_map.mp hp
  have hlen : names.length ≤ entry.1.segments.length :=
    hnames.length_le.trans (List.dropLast_prefix _).length_le
  have hmax : ∀ (lengths : List ℕ) (n : ℕ), n ∈ lengths → n ≤ lengths.foldr max 0 := by
    intro lengths
    induction lengths with
    | nil => simp
    | cons k lengths ih =>
      intro n hn
      rcases List.mem_cons.mp hn with rfl | hn
      · exact le_max_left _ _
      · exact (ih n hn).trans (le_max_right _ _)
  exact hlen.trans (hmax _ _ (List.mem_map.mpr ⟨entry, hentry, rfl⟩))

end WellFormed

theorem mem_listing (t : Tree) (dir : ProjectPath) (e : DirEntry) :
    (dir, e) ∈ t.listing ↔
      ∃ p, (p ∈ t.paths ∨ p ∈ t.dirs) ∧ p ≠ root ∧ p.parent = dir ∧
        e = ⟨p.fileName, t.isDir p⟩ := by
  simp only [listing, List.mem_map, Ascending.mem_ofList, List.mem_filter, List.mem_append,
    Prod.mk.injEq, Bool.not_eq_true', ← Bool.not_eq_true, isRoot_iff, paths]
  refine exists_congr fun p => ?_
  rw [and_assoc, eq_comm (a := e)]

theorem mem_entries (t : Tree) (dir : ProjectPath) (e : DirEntry) :
    e ∈ t.view.entries dir ↔ t.isDir dir = true ∧ (dir, e) ∈ t.listing := by
  simp only [view]
  split_ifs with h
  · simp only [List.mem_map, List.mem_filter, decide_eq_true_eq, h, true_and]
    constructor
    · rintro ⟨⟨d, e'⟩, ⟨hmem, rfl⟩, rfl⟩
      exact hmem
    · intro hmem
      exact ⟨(dir, e), ⟨hmem, rfl⟩, rfl⟩
  · simp [h]

namespace WellFormed

variable {t : Tree} (ht : t.WellFormed)
include ht

/-- The directories are those that files lie in, at any depth. -/
theorem isDir_iff_above (d : ProjectPath) :
    t.isDir d = true ↔ ∃ p k, t.isFile p = true ∧ d = parent^[k + 1] p := by
  rw [isDir_iff, ht.mem_dirs]
  simp only [isFile_iff]
  constructor
  · rintro ⟨p, hp, hd⟩
    obtain ⟨k, hk⟩ := (mem_ancestors_iff_parent (ht.canonical p hp) d).mp hd
    exact ⟨p, k, hp, hk⟩
  · rintro ⟨p, k, hp, hd⟩
    exact ⟨p, hp, (mem_ancestors_iff_parent (ht.canonical p hp) d).mpr ⟨k, hd⟩⟩

/-- What lies in a directory makes it one. -/
theorem isDir_parent {p : ProjectPath} (h : t.isFile p = true ∨ t.isDir p = true) :
    t.isDir p.parent = true := by
  rcases h with h | h
  · exact (ht.isDir_iff_above _).mpr ⟨p, 0, h, rfl⟩
  · obtain ⟨q, k, hq, rfl⟩ := (ht.isDir_iff_above p).mp h
    exact (ht.isDir_iff_above _).mpr
      ⟨q, k + 1, hq, (Function.iterate_succ_apply' parent (k + 1) q).symm⟩

/-- A directory lists the names of what lies in it. -/
theorem mem_entries_iff (d : ProjectPath) (e : DirEntry) :
    e ∈ t.view.entries d ↔
      (e.name ≠ "" ∧ '/' ∉ e.name.toList) ∧
      (t.isFile (d.join e.name) = true ∨ t.isDir (d.join e.name) = true) ∧
      e.isDir = t.isDir (d.join e.name) := by
  rw [mem_entries, mem_listing]
  simp only [← isFile_iff, ← isDir_iff]
  constructor
  · rintro ⟨-, p, hp, hroot, rfl, rfl⟩
    have hcanon : p.Canonical := hp.elim ht.canonical_of_isFile ht.canonical_of_isDir
    obtain ⟨hname, hjoin⟩ := hcanon.join_fileName hroot
    simp only [hjoin]
    exact ⟨⟨hname.ne_empty, hname.no_slash⟩, hp, trivial⟩
  · rintro ⟨⟨hempty, hslash⟩, hchild, hkind⟩
    have hdir := ht.isDir_parent hchild
    rw [parent_join d hslash] at hdir
    refine ⟨hdir, d.join e.name, hchild, join_ne_root d hempty, parent_join d hslash, ?_⟩
    rw [fileName_join d hslash, ← hkind]

/-- The listing of a directory names its children, and tells of each whether it is a directory. -/
theorem mem_entries_ofSegments {names : List String} (h : ∀ n ∈ names, IsName n) (e : DirEntry) :
    e ∈ t.view.entries (ofSegments names) ↔
      IsName e.name ∧
      (t.isFile (ofSegments (names ++ [e.name])) = true ∨ e.isDir = true) ∧
      e.isDir = t.isDir (ofSegments (names ++ [e.name])) := by
  rw [ht.mem_entries_iff, join_ofSegments h]
  constructor
  · rintro ⟨⟨hempty, hslash⟩, hchild, hkind⟩
    have hcanon := hchild.elim ht.canonical_of_isFile ht.canonical_of_isDir
    rw [← join_ofSegments h] at hcanon
    have hname := (hcanon.join_fileName (join_ne_root _ hempty)).1
    rw [fileName_join _ hslash] at hname
    exact ⟨hname, hkind ▸ hchild, hkind⟩
  · rintro ⟨hname, hchild, hkind⟩
    exact ⟨⟨hname.ne_empty, hname.no_slash⟩, hkind ▸ hchild, hkind⟩

end WellFormed

end Tree
end TreeLint
