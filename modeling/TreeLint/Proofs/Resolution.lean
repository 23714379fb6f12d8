import TreeLint.Import.Resolve
import TreeLint.Proofs.RelativePath
import TreeLint.Proofs.Tree

/-!
Where imports lead. A relative specifier is followed from the directory of the file that it stands
in. What it leads to is looked for under its own names, then with an ending, and then as a directory
that holds an index file; the first file counts. Main statements: nothing else is found, and every
directory but the root can be imported by its index file.
-/
namespace TreeLint.Import

open ProjectPath

/-- Specifiers that are followed from where they stand. -/
def Relative (specifier : String) : Prop :=
  ['.', '/'] <+: specifier.toList ∨ ['.', '.', '/'] <+: specifier.toList

instance (specifier : String) : Decidable (Relative specifier) :=
  inferInstanceAs (Decidable (_ ∨ _))

theorem isRelative_iff (specifier : String) : isRelative specifier = true ↔ Relative specifier := by
  rw [isRelative, Bool.or_eq_true, String.startsWith_string_iff, String.startsWith_string_iff]
  rfl

/-- The names that a specifier in the file `source` leads to. -/
def destination? (source : ProjectPath) (specifier : String) : Option (List String) :=
  follow? source.segments.dropLast (parts specifier)

/-- The names of the files that `before` and `last` may stand for, in the order in which they are
looked for. -/
def spellings (before : List String) (last : String) : List (List String) :=
  (before ++ [last]) :: (sourceExtensions.map fun ext => before ++ [last ++ ext]) ++
    sourceExtensions.map fun ext => before ++ [last, "index" ++ ext]

theorem text_append (before : List String) (last ext : String) :
    ofSegments (before ++ [last ++ ext]) = ⟨(ofSegments (before ++ [last])).text ++ ext⟩ := by
  by_cases hnil : before = []
  · subst hnil
    simp [ofSegments]
  · rw [ofSegments_snoc hnil, ofSegments_snoc hnil]
    simp [String.append_assoc]

theorem candidates_ofSegments {before : List String} {last : String}
    (h : ∀ n ∈ before ++ [last], IsName n) :
    candidates (ofSegments (before ++ [last])) = (spellings before last).map ofSegments := by
  have hbefore : ∀ n ∈ before, IsName n := fun n hn => h n (by simp [hn])
  have hlast : IsName last := h last (by simp)
  simp only [candidates, spellings, parent_ofSegments before hlast,
    fileName_ofSegments before hlast, join_ofSegments hbefore, join_ofSegments h]
  simp [Function.comp_def]

section Targets

variable {view : FileView} {specifier : String} {source : ProjectPath}

theorem resolve_of_not_isRelative (h : isRelative specifier = false) :
    resolve view specifier source = .external := by
  simp [resolve, h]

/-- A relative specifier leads to the first file that its path may stand for. -/
theorem resolve_of_isRelative (h : isRelative specifier = true) :
    resolve view specifier source =
      (((source.parent.joinRelative? specifier).filter (!·.isRoot)).bind fun p =>
        (candidates p).find? view.isFile).elim .unresolved .file := by
  rw [resolve, h]
  cases source.parent.joinRelative? specifier with
  | none => rfl
  | some p =>
    by_cases hroot : p.isRoot = true
    · simp [hroot, Option.filter]
    · cases hfound : (candidates p).find? view.isFile <;> simp [hroot, hfound, Option.filter]

theorem resolve_ne_external (h : isRelative specifier = true) :
    resolve view specifier source ≠ .external := by
  rw [resolve_of_isRelative h]
  cases ((source.parent.joinRelative? specifier).filter (!·.isRoot)).bind fun p =>
    (candidates p).find? view.isFile <;> simp

theorem isRelative_of_resolve {target : ProjectPath}
    (h : (resolve view specifier source).file? = some target) : isRelative specifier = true := by
  by_contra hexternal
  rw [resolve_of_not_isRelative (Bool.eq_false_iff.mpr hexternal)] at h
  cases h

theorem isFile_of_resolve {target : ProjectPath}
    (h : (resolve view specifier source).file? = some target) : view.isFile target = true := by
  have hrelative := isRelative_of_resolve h
  rw [resolve_of_isRelative hrelative] at h
  cases hfound : ((source.parent.joinRelative? specifier).filter (!·.isRoot)).bind fun p =>
      (candidates p).find? view.isFile with
  | none => simp [hfound, Target.file?] at h
  | some found =>
    obtain ⟨p, -, hp⟩ := Option.bind_eq_some_iff.mp hfound
    obtain rfl : found = target := by simpa [hfound, Target.file?] using h
    exact List.find?_some hp

section Destination

variable (hsource : source.Canonical)
include hsource

theorem joinRelative?_parent :
    source.parent.joinRelative? specifier = (destination? source specifier).map ofSegments := by
  rw [hsource.parent_eq, destination?]
  exact joinRelative?_ofSegments
    (fun n hn => hsource.isName n ((List.dropLast_prefix _).subset hn)) specifier

theorem isName_of_destination? {names : List String}
    (h : destination? source specifier = some names) : ∀ n ∈ names, IsName n :=
  follow?_isName (fun n hn => hsource.isName n ((List.dropLast_prefix _).subset hn))
    (fun _ hpart => parts_no_separator hpart) h

variable (hrelative : Relative specifier)
include hrelative

/-- Neither what lies above the root nor the root itself is looked for. -/
theorem resolve_of_outside (h : ∀ names ∈ destination? source specifier, names = []) :
    resolve view specifier source = .unresolved := by
  rw [resolve_of_isRelative ((isRelative_iff specifier).mpr hrelative),
    joinRelative?_parent hsource]
  cases hnames : destination? source specifier with
  | none => rfl
  | some names =>
    obtain rfl := h names hnames
    rfl

theorem resolve_of_destination? {before : List String} {last : String}
    (h : destination? source specifier = some (before ++ [last])) :
    resolve view specifier source =
      (((spellings before last).map ofSegments).find? view.isFile).elim .unresolved .file := by
  have hnames := isName_of_destination? hsource h
  have hroot : ¬(ofSegments (before ++ [last])).isRoot = true := by
    rw [isRoot_iff, ofSegments_eq_root_iff hnames]
    simp
  rw [resolve_of_isRelative ((isRelative_iff specifier).mpr hrelative),
    joinRelative?_parent hsource, h, ← candidates_ofSegments hnames]
  simp [hroot, Option.filter]

end Destination

end Targets

/-- Specifiers that are not relative are external, and no others. A relative one is looked for below
the root only: under the names that it leads to, with each ending in turn, and then as a directory
with an index file. What is found is a file of the tree, under its canonical path. -/
theorem resolve_exact (entries : List (String × String)) (specifier : String)
    {source : ProjectPath} (hsource : source.Canonical) :
    (resolve (Tree.ofList entries).view specifier source = .external ↔ ¬Relative specifier) ∧
    (Relative specifier →
      (destination? source specifier = none ∨ destination? source specifier = some [] →
        resolve (Tree.ofList entries).view specifier source = .unresolved) ∧
      ∀ before last, destination? source specifier = some (before ++ [last]) →
        resolve (Tree.ofList entries).view specifier source =
          (((spellings before last).map ofSegments).find? (Tree.ofList entries).isFile).elim
            .unresolved .file ∧
        (spellings before last).length = 13) ∧
    ∀ file, resolve (Tree.ofList entries).view specifier source = .file file →
      file.Canonical ∧ (Tree.ofList entries).isFile file = true := by
  refine ⟨⟨fun hexternal hrelative => ?_, fun h => ?_⟩, fun hrelative => ⟨fun h => ?_, ?_⟩,
    fun file h => ?_⟩
  · exact resolve_ne_external ((isRelative_iff specifier).mpr hrelative) hexternal
  · rw [← isRelative_iff, Bool.not_eq_true] at h
    exact resolve_of_not_isRelative h
  · refine resolve_of_outside hsource hrelative fun names hnames => ?_
    rcases h with h | h
    · simp [h] at hnames
    · simpa [h] using hnames.symm
  · intro before last h
    exact ⟨resolve_of_destination? hsource hrelative h, rfl⟩
  · have hfile : (Tree.ofList entries).view.isFile file = true :=
      isFile_of_resolve (congrArg Target.file? h)
    exact ⟨(Tree.wellFormed_ofList entries).canonical_of_isFile hfile, hfile⟩

/-- A directory with two index files. -/
def utilities : List (String × String) :=
  [("src/a/b.ts", ""), ("src/util/index.cjs", ""), ("src/util/index.jsx", "")]

theorem canonical_importer : (⟨"src/a/b.ts"⟩ : ProjectPath).Canonical :=
  canonical_of_normalize? (by decide : normalize? "src/a/b.ts" = some ⟨"src/a/b.ts"⟩)

theorem resolve_exact_utilities :
    (⟨"src/a/b.ts"⟩ : ProjectPath).Canonical ∧ Relative "./..\\util//" ∧
    destination? ⟨"src/a/b.ts"⟩ "./..\\util//" = some ["src", "util"] ∧
    resolve (Tree.ofList utilities).view "./..\\util//" ⟨"src/a/b.ts"⟩ =
      .file ⟨"src/util/index.jsx"⟩ ∧
    (⟨"src/util/index.jsx"⟩ : ProjectPath).Canonical := by
  have hrelative : Relative "./..\\util//" := by decide
  obtain ⟨-, hfound, hfiles⟩ := resolve_exact utilities "./..\\util//" canonical_importer
  have hdestination : destination? ⟨"src/a/b.ts"⟩ "./..\\util//" = some (["src"] ++ ["util"]) := by
    decide
  have hresolve : resolve (Tree.ofList utilities).view "./..\\util//" ⟨"src/a/b.ts"⟩ =
      .file ⟨"src/util/index.jsx"⟩ := by
    rw [((hfound hrelative).2 _ _ hdestination).1]
    decide +kernel
  exact ⟨canonical_importer, hrelative, hdestination, hresolve, (hfiles _ hresolve).1⟩

/-- Where neither a directory's path nor that path with an ending is a file, the first index file in
the directory is what is found. -/
theorem find?_spellings {isFile : ProjectPath → Bool} {before : List String} {last : String}
    (hplain : isFile (ofSegments (before ++ [last])) = false)
    (hendings : ∀ ext ∈ sourceExtensions,
      isFile ⟨(ofSegments (before ++ [last])).text ++ ext⟩ = false) :
    ((spellings before last).map ofSegments).find? isFile =
      (sourceExtensions.find? fun ext =>
        isFile (ofSegments (before ++ [last] ++ ["index" ++ ext]))).map
        fun ext => ofSegments (before ++ [last] ++ ["index" ++ ext]) := by
  have hnone : ((sourceExtensions.map fun ext => before ++ [last ++ ext]).map ofSegments).find?
      isFile = none := by
    rw [List.map_map, List.find?_map, Option.map_eq_none_iff, List.find?_eq_none]
    intro ext hext
    simp [text_append, hendings ext hext]
  rw [spellings, List.cons_append, List.map_cons, List.find?_cons_of_neg (by simp [hplain]),
    List.map_append, List.find?_append, hnone, Option.none_or, List.map_map, List.find?_map]
  simp [Function.comp_def]

/-- A specifier that leads to a directory, whatever its spelling and however deep the directory
lies, finds the first index file there, unless the directory is the root. -/
theorem resolve_directory (entries : List (String × String)) {specifier : String}
    {source : ProjectPath} (hsource : source.Canonical) (hrelative : Relative specifier)
    {dir : List String} (hdir : destination? source specifier = some dir)
    (hplain : (Tree.ofList entries).isFile (ofSegments dir) = false)
    (hendings : ∀ ext ∈ sourceExtensions,
      (Tree.ofList entries).isFile ⟨(ofSegments dir).text ++ ext⟩ = false)
    (hindex : ∃ ext ∈ sourceExtensions,
      (Tree.ofList entries).isFile (ofSegments (dir ++ ["index" ++ ext])) = true) :
    ∃ ext, (sourceExtensions.find? fun ext =>
        (Tree.ofList entries).isFile (ofSegments (dir ++ ["index" ++ ext]))) = some ext ∧
      resolve (Tree.ofList entries).view specifier source =
        if dir = [] then .unresolved else .file (ofSegments (dir ++ ["index" ++ ext])) := by
  obtain ⟨ext, hext⟩ := Option.isSome_iff_exists.mp (List.find?_isSome.mpr hindex)
  refine ⟨ext, hext, ?_⟩
  rcases List.eq_nil_or_concat' dir with rfl | ⟨before, last, rfl⟩
  · rw [if_pos rfl]
    refine resolve_of_outside hsource hrelative fun names hnames => ?_
    exact (Option.some.inj (hdir.symm.trans hnames)).symm
  · have hfind := find?_spellings hplain hendings
    rw [hext] at hfind
    rw [if_neg (by simp), resolve_of_destination? hsource hrelative hdir]
    exact congrArg (Option.elim · Target.unresolved .file) hfind

theorem resolve_directory_utilities :
    destination? ⟨"src/a/b.ts"⟩ "../a/.././util/" = some ["src", "util"] ∧
    resolve (Tree.ofList utilities).view "../a/.././util/" ⟨"src/a/b.ts"⟩ =
      .file ⟨"src/util/index.jsx"⟩ := by
  have hdestination : destination? ⟨"src/a/b.ts"⟩ "../a/.././util/" = some ["src", "util"] := by
    decide
  obtain ⟨ext, hext, hresolve⟩ := resolve_directory utilities canonical_importer
    (by decide : Relative "../a/.././util/") hdestination (by decide +kernel) (by decide +kernel)
    (by decide +kernel)
  have hjsx : (sourceExtensions.find? fun ext =>
      (Tree.ofList utilities).isFile (ofSegments (["src", "util"] ++ ["index" ++ ext]))) =
        some ".jsx" := by
    decide +kernel
  obtain rfl : ".jsx" = ext := Option.some.inj (hjsx.symm.trans hext)
  exact ⟨hdestination, hresolve⟩

/-- The index file of the root is not found from a file beside it. -/
theorem resolve_root_index :
    (⟨"a.ts"⟩ : ProjectPath).Canonical ∧ Relative "./" ∧ destination? ⟨"a.ts"⟩ "./" = some [] ∧
    (Tree.ofList [("a.ts", ""), ("index.ts", "")]).isDir root = true ∧
    (Tree.ofList [("a.ts", ""), ("index.ts", "")]).isFile root = false ∧
    (∀ ext ∈ sourceExtensions,
      (Tree.ofList [("a.ts", ""), ("index.ts", "")]).isFile ⟨root.text ++ ext⟩ = false) ∧
    (sourceExtensions.find? fun ext => (Tree.ofList [("a.ts", ""), ("index.ts", "")]).isFile
      (ofSegments ([] ++ ["index" ++ ext]))) = some ".ts" ∧
    resolve (Tree.ofList [("a.ts", ""), ("index.ts", "")]).view "./" ⟨"a.ts"⟩ ≠
      .file ⟨"index.ts"⟩ := by
  refine ⟨canonical_of_normalize? (by decide : normalize? "a.ts" = some ⟨"a.ts"⟩), ?_⟩
  decide +kernel

end TreeLint.Import
