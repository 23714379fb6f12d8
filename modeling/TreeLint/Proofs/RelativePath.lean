import TreeLint.Proofs.Path

/-!
Where a relative path leads, told by names: a part of it that is a name goes down, `..` goes up, and
nothing else moves. The root has nothing above it.
-/
namespace TreeLint.ProjectPath

/-- Follows the parts of a relative path from the directory with these names. -/
def follow? (names : List String) : List String → Option (List String)
  | [] => some names
  | part :: rest =>
    if part = "" ∨ part = "." then follow? names rest
    else if part = ".." then if names = [] then none else follow? names.dropLast rest
    else follow? (names ++ [part]) rest

theorem foldlM_step?_reverse (names parts : List String) :
    parts.foldlM step? names.reverse = (follow? names parts).map List.reverse := by
  induction parts generalizing names with
  | nil => simp [follow?]
  | cons part parts ih =>
    rw [List.foldlM_cons, follow?, step?.eq_def]
    split_ifs with hstay hup hroot
    · exact ih names
    · subst hroot
      rfl
    · -- the last name lies on top of the stack
      obtain ⟨above, last, rfl⟩ := (List.eq_nil_or_concat' names).resolve_left hroot
      simpa using ih above
    · simpa using ih (names ++ [part])

theorem follow?_append (names first second : List String) :
    follow? names (first ++ second) = (follow? names first).bind (follow? · second) := by
  induction first generalizing names with
  | nil => rfl
  | cons part first ih =>
    rw [List.cons_append, follow?, follow?]
    split_ifs
    · exact ih names
    · rfl
    · exact ih names.dropLast
    · exact ih (names ++ [part])

/-- Names only go down. -/
theorem follow?_of_isName {more : List String} (h : ∀ n ∈ more, IsName n) (names : List String) :
    follow? names more = some (names ++ more) := by
  induction more generalizing names with
  | nil => simp [follow?]
  | cons n more ih =>
    have hn := h n (by simp)
    rw [follow?, if_neg (not_or.mpr ⟨hn.ne_empty, hn.ne_here⟩), if_neg hn.ne_up,
      ih fun m hm => h m (by simp [hm])]
    simp

theorem follow?_isName {names parts reached : List String} (hnames : ∀ n ∈ names, IsName n)
    (hparts : ∀ part ∈ parts, ∀ c ∈ part.toList, isSeparator c = false)
    (h : follow? names parts = some reached) : ∀ n ∈ reached, IsName n := by
  have hstack : parts.foldlM step? names.reverse = some reached.reverse := by
    rw [foldlM_step?_reverse, h]
    rfl
  have hall := foldlM_step?_isName (by simpa using hnames) hparts hstack
  exact fun n hn => hall n (List.mem_reverse.mpr hn)

/-- A text is followed from the root. -/
theorem normalize?_eq (raw : String) :
    normalize? raw = (follow? [] (parts raw)).map ofSegments := by
  rw [normalize?, ← List.reverse_nil, foldlM_step?_reverse, Option.map_map]
  simp [Function.comp_def]

theorem parts_append (first second : String) :
    parts (first ++ "/" ++ second) = parts first ++ parts second := by
  have hchars : (first ++ "/" ++ second).toList = first.toList ++ '/' :: second.toList := by simp
  rw [parts, hchars, List.splitOnP_append_cons _ _ rfl, List.map_append]
  rfl

/-- What a directory is joined with is followed from there. -/
theorem joinRelative?_ofSegments {names : List String} (h : ∀ n ∈ names, IsName n)
    (relative : String) :
    (ofSegments names).joinRelative? relative =
      (follow? names (parts relative)).map ofSegments := by
  by_cases hnil : names = []
  · subst hnil
    rw [ofSegments_nil]
    exact normalize?_eq relative
  · have hroot : ¬(ofSegments names).isRoot = true := by
      rwa [isRoot_iff, ofSegments_eq_root_iff h]
    rw [joinRelative?, if_neg hroot, normalize?_eq, parts_append, parts_ofSegments h hnil,
      follow?_append, follow?_of_isName h]
    rfl

/-- A canonical path leads down from every directory. -/
theorem Canonical.joinRelative?_text {dir p : ProjectPath} (hdir : dir.Canonical)
    (hp : p.Canonical) :
    dir.joinRelative? p.text = some (ofSegments (dir.segments ++ p.segments)) := by
  obtain ⟨names, hnames, rfl⟩ := hdir
  obtain ⟨more, hmore, rfl⟩ := hp
  rw [joinRelative?_ofSegments hnames, segments_ofSegments hnames, segments_ofSegments hmore]
  by_cases hnil : more = []
  · -- the one part of the empty text stays where it is
    subst hnil
    simp [parts, ofSegments, follow?]
  · rw [parts_ofSegments hmore hnil, follow?_of_isName hmore]
    rfl

theorem Canonical.exists_names {p : ProjectPath} (h : p.Canonical) (hroot : p ≠ root) :
    ∃ above name, (∀ n ∈ above ++ [name], IsName n) ∧ p = ofSegments (above ++ [name]) := by
  obtain ⟨names, hnames, rfl⟩ := h
  rcases List.eq_nil_or_concat' names with rfl | ⟨above, name, rfl⟩
  · exact absurd ofSegments_nil hroot
  · exact ⟨above, name, hnames, rfl⟩

/-- The directory of a path and its name, with a slash between, lead to the path. -/
theorem normalize?_parent_name {above : List String} {name : String}
    (h : ∀ n ∈ above ++ [name], IsName n) :
    normalize? ((ofSegments above).text ++ "/" ++ name) = some (ofSegments (above ++ [name])) := by
  have habove : ∀ n ∈ above, IsName n := fun n hn => h n (List.mem_append_left _ hn)
  have hname : ∀ n ∈ [name], IsName n := fun n hn => h n (List.mem_append_right _ hn)
  have hup : follow? [] (parts (ofSegments above).text) = some above := by
    by_cases hnil : above = []
    · subst hnil
      rfl
    · rw [parts_ofSegments habove hnil]
      exact follow?_of_isName habove []
  have hparts : parts name = [name] := parts_ofSegments hname (by simp)
  rw [normalize?_eq, parts_append, follow?_append, hup, hparts]
  simp [follow?_of_isName hname]

end TreeLint.ProjectPath
