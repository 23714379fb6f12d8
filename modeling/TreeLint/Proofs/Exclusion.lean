import TreeLint.Proofs.Findings
import TreeLint.Proofs.ModuleRoots
import TreeLint.Proofs.Resolution

/-!
Leaving more out never adds a finding. What is left out is not looked at, belongs to no layer and
makes no module, and the findings in what is left stay as they are.
-/
namespace TreeLint

open ProjectPath

section Lists

variable {α β : Type}

theorem flatMap_filter_sublist {keep : α → Bool} {f g : α → List β} {xs : List α}
    (h : ∀ x ∈ xs, keep x = true → (g x).Sublist (f x)) :
    ((xs.filter keep).flatMap g).Sublist (xs.flatMap f) := by
  induction xs with
  | nil => exact .slnil
  | cons x xs ih =>
    have hrest := ih fun y hy => h y (List.mem_cons_of_mem x hy)
    rw [List.filter_cons, List.flatMap_cons]
    split_ifs with hkeep
    · exact (h x (by simp) hkeep).append hrest
    · exact hrest.trans (List.sublist_append_right _ _)

theorem filterMap_sublist {f g : α → Option β} (h : ∀ x y, g x = some y → f x = some y)
    (xs : List α) : (xs.filterMap g).Sublist (xs.filterMap f) := by
  induction xs with
  | nil => exact .slnil
  | cons x xs ih =>
    cases hg : g x with
    | some y =>
      rw [List.filterMap_cons_some hg, List.filterMap_cons_some (h x y hg)]
      exact ih.cons_cons y
    | none =>
      rw [List.filterMap_cons_none hg]
      cases hf : f x with
      | some y =>
        rw [List.filterMap_cons_some hf]
        exact ih.cons y
      | none => rwa [List.filterMap_cons_none hf]

end Lists

/-- The findings `fewer` are some of `findings`, in their order, and none is in an ignored path. -/
structure Thinned (ignore : IgnoreSet) (fewer findings : List Violation) : Prop where
  sublist : fewer.Sublist findings
  kept : ∀ v ∈ fewer, ignore.isIgnored v.location.file = false

theorem Thinned.append {ignore : IgnoreSet} {fewer fewer' findings findings' : List Violation}
    (h : Thinned ignore fewer findings) (h' : Thinned ignore fewer' findings') :
    Thinned ignore (fewer ++ fewer') (findings ++ findings') where
  sublist := h.sublist.append h'.sublist
  kept := List.forall_mem_append.mpr ⟨h.kept, h'.kept⟩

/-- Findings are thinned with the paths that they are made in. -/
theorem thinned_flatMap {ignore more : IgnoreSet} {paths : List ProjectPath}
    {f g : ProjectPath → List Violation} (hpaths : ∀ x ∈ paths, ignore.isIgnored x = false)
    (h : ∀ x ∈ paths, more.isIgnored x = false → (g x).Sublist (f x))
    (hplace : ∀ x, ∀ v ∈ g x, v.location.file = x) :
    Thinned (ignore.union more) ((paths.filter (!more.isIgnored ·)).flatMap g)
      (paths.flatMap f) where
  sublist := flatMap_filter_sublist fun x hx hkeep => h x hx (by simpa using hkeep)
  kept v hv := by
    obtain ⟨x, hx, hv⟩ := List.mem_flatMap.mp hv
    obtain ⟨hx, hkeep⟩ := List.mem_filter.mp hx
    rw [hplace x v hv, IgnoreSet.isIgnored_union, hpaths x hx]
    simpa using hkeep

namespace Scope

/-- A scope in which more is ignored. -/
def without (s : Scope) (more : IgnoreSet) : Scope := { s with ignore := s.ignore.union more }

theorem inText_sublist {s : Scope} {file : ProjectPath} {f g : String → List Violation}
    (h : ∀ text, (g text).Sublist (f text)) : (s.inText file g).Sublist (s.inText file f) := by
  unfold inText
  cases s.view.text? file with
  | none => exact .slnil
  | some text => exact h text

section Selection

variable {t : Tree} (ht : t.WellFormed) {s : Scope} (hview : s.view = t.view) (more : IgnoreSet)
include ht hview

theorem filesOf_without (p : Pattern) :
    (s.without more).filesOf p = (s.filesOf p).filter (!more.isIgnored ·) := by
  have hsame : (s.without more).view = t.view := hview
  rw [filesOf, filesOf, hsame, hview]
  refine (FileView.matchFiles_sorted _ p _).eq_of_mem_iff
    ((FileView.matchFiles_sorted _ p _).filter _) fun f => ?_
  rw [List.mem_filter, FileView.mem_matchFiles ht, FileView.mem_matchFiles ht, without,
    IgnoreSet.isIgnored_union, Bool.or_eq_false_iff, Bool.not_eq_true']
  tauto

theorem dirsOf_without (p : Pattern) :
    (s.without more).dirsOf p = (s.dirsOf p).filter (!more.isIgnored ·) := by
  have hsame : (s.without more).view = t.view := hview
  rw [dirsOf, dirsOf, hsame, hview]
  refine (FileView.matchDirs_sorted _ p _).eq_of_mem_iff
    ((FileView.matchDirs_sorted _ p _).filter _) fun d => ?_
  rw [List.mem_filter, FileView.mem_matchDirs ht, FileView.mem_matchDirs ht, without,
    IgnoreSet.isIgnored_union, Bool.or_eq_false_iff, Bool.not_eq_true']
  tauto

theorem select_without (p : Option Pattern) :
    (s.without more).select p = (s.select p).filter (!more.isIgnored ·) := by
  cases p with
  | some p => exact filesOf_without ht hview more p
  | none =>
    refine (Ascending.ofList_sorted _).eq_of_mem_iff ((Ascending.ofList_sorted _).filter _)
      fun f => ?_
    have hincluded : (s.without more).included = s.included := rfl
    simp only [select, List.mem_filter, Ascending.mem_ofList, List.mem_flatMap, hincluded,
      filesOf_without ht hview more]
    constructor
    · rintro ⟨p, hp, hf, hkeep⟩
      exact ⟨⟨p, hp, hf⟩, hkeep⟩
    · rintro ⟨⟨p, hp, hf⟩, hkeep⟩
      exact ⟨p, hp, hf, hkeep⟩

theorem canonical_of_mem_select {p : Option Pattern} {f : ProjectPath} (h : f ∈ s.select p) :
    f.Canonical := by
  have hfiles : ∀ q : Pattern, f ∈ s.filesOf q → f.Canonical := by
    intro q hf
    rw [filesOf, hview] at hf
    exact ht.canonical_of_isFile ((FileView.mem_matchFiles ht q f).mp hf).1
  cases p with
  | some q => exact hfiles q h
  | none =>
    obtain ⟨q, -, hf⟩ := List.mem_flatMap.mp ((Ascending.mem_ofList _ _).mp h)
    exact hfiles q hf

/-- No module comes into being where more is ignored. -/
theorem moduleRoots_without (p : Pattern) : (s.without more).view.moduleRoots p
    (s.without more).ignore ⊆ s.view.moduleRoots p s.ignore := by
  intro root hroot
  have hfiles := filesOf_without ht hview more p.below
  have hdirs := dirsOf_without ht hview more p
  unfold FileView.moduleRoots at hroot ⊢
  split_ifs at hroot ⊢ with hplain
  · change root ∈ (s.without more).dirsOf p at hroot
    rw [hdirs] at hroot
    exact List.mem_of_mem_filter hroot
  · rw [Ascending.mem_ofList] at hroot ⊢
    obtain ⟨file, hfile, houter⟩ := List.mem_filterMap.mp hroot
    change file ∈ (s.without more).filesOf p.below at hfile
    rw [hfiles] at hfile
    exact List.mem_filterMap.mpr ⟨file, List.mem_of_mem_filter hfile, houter⟩

end Selection

end Scope

namespace PublicApi

variable {roots fewer : List ProjectPath} {file root target : ProjectPath}

/-- A module that is still there holds the same files. -/
theorem moduleOf?_mono (hroots : Apart roots) (hfewer : Apart fewer) (hsub : fewer ⊆ roots)
    (htarget : target.Canonical) (h : moduleOf? fewer target = some root) :
    moduleOf? roots target = some root := by
  obtain ⟨hmem, hlies⟩ := (moduleOf?_eq_some_iff hfewer htarget).mp h
  exact (moduleOf?_eq_some_iff hroots htarget).mpr ⟨hsub hmem, hlies⟩

/-- What may be imported from a module that is still there may still be imported. -/
theorem allows_mono {api : PublicApi} (hroots : Apart roots) (hfewer : Apart fewer)
    (hfile : file.Canonical) (hroot : root ∈ fewer)
    (h : api.allows roots file root target = true) :
    api.allows fewer file root target = true := by
  simp only [allows, Bool.or_eq_true, Bool.and_eq_true, decide_eq_true_eq] at h ⊢
  refine h.imp_left (Or.imp_left (And.imp_right fun hmodule => ?_))
  obtain ⟨-, hlies⟩ := (moduleOf?_eq_some_iff hroots hfile).mp hmodule
  exact (moduleOf?_eq_some_iff hfewer hfile).mpr ⟨hroot, hlies⟩

theorem checkEdge_mono {api : PublicApi} {t : Tree} (ht : t.WellFormed) {s : Scope}
    (hview : s.view = t.view) (more : IgnoreSet) (hroots : Apart roots) (hfewer : Apart fewer)
    (hsub : fewer ⊆ roots) (hfile : file.Canonical) {edge : Import.Edge} {v : Violation}
    (h : api.checkEdge (s.without more) fewer file edge = some v) :
    api.checkEdge s roots file edge = some v := by
  obtain ⟨target, htarget, h⟩ := Option.bind_eq_some_iff.mp h
  obtain ⟨root, hroot, h⟩ := Option.bind_eq_some_iff.mp h
  have hcanonical : target.Canonical := by
    refine ht.canonical_of_isFile ?_
    have hexists : s.view.isFile target = true := Import.isFile_of_resolve htarget
    rwa [hview] at hexists
  -- the module of the target is still there, so that the same imports from it are allowed
  have hmem := ((moduleOf?_eq_some_iff hfewer hcanonical).mp hroot).1
  refine Option.bind_eq_some_iff.mpr ⟨target, htarget, Option.bind_eq_some_iff.mpr
    ⟨root, moduleOf?_mono hroots hfewer hsub hcanonical hroot, ?_⟩⟩
  split_ifs at h with hallowed
  rw [if_neg fun hallows => hallowed (allows_mono hroots hfewer hfile hmem hallows)]
  exact h

end PublicApi

namespace LayerFiles

/-- Layers that do not claim ignored files. -/
def without (layers : List LayerFiles) (more : IgnoreSet) : List LayerFiles :=
  layers.map fun l => { l with files := l.files.filter (!more.isIgnored ·) }

theorem claimants_without (layers : List LayerFiles) (more : IgnoreSet) (file : ProjectPath) :
    claimants (without layers more) file =
      if more.isIgnored file then [] else claimants layers file := by
  have hclaims : ((without layers more).filter (·.files.contains file)).map (·.layer) =
      (layers.filter fun l => l.files.contains file && !more.isIgnored file).map (·.layer) := by
    rw [without, List.filter_map, List.map_map]
    congr 1
    refine List.filter_congr fun l _ => ?_
    rw [Bool.eq_iff_iff]
    simp
  rw [claimants, claimants, hclaims]
  cases more.isIgnored file <;> simp

theorem owner?_of_without {layers : List LayerFiles} {more : IgnoreSet} {file : ProjectPath}
    {layer : Layer} (h : owner? (without layers more) file = some layer) :
    owner? layers file = some layer := by
  rw [owner?, claimants_without] at h
  split_ifs at h
  · cases h
  · exact h

theorem all_without (layers : List LayerFiles) (more : IgnoreSet) :
    all (without layers more) = (all layers).filter (!more.isIgnored ·) := by
  refine (Ascending.ofList_sorted _).eq_of_mem_iff ((Ascending.ofList_sorted _).filter _)
    fun file => ?_
  simp only [all, without, List.mem_filter, Ascending.mem_ofList, List.mem_flatMap, List.mem_map]
  constructor
  · rintro ⟨-, ⟨l, hl, rfl⟩, hfile⟩
    obtain ⟨hfile, hkeep⟩ := List.mem_filter.mp hfile
    exact ⟨⟨l, hl, hfile⟩, hkeep⟩
  · rintro ⟨⟨l, hl, hfile⟩, hkeep⟩
    exact ⟨_, ⟨l, hl, rfl⟩, List.mem_filter.mpr ⟨hfile, hkeep⟩⟩

end LayerFiles

namespace ImportBoundary

variable {s : Scope} {layers : List LayerFiles} {more : IgnoreSet} {file : ProjectPath}

theorem overlap_without (h : more.isIgnored file = false) :
    overlap (s.without more) (LayerFiles.without layers more) file = overlap s layers file := by
  unfold overlap
  rw [LayerFiles.claimants_without, if_neg (by simp [h])]
  rfl

theorem checkEdge_of_without {b : ImportBoundary} {layer : Layer} {edge : Import.Edge}
    {v : Violation} (h : b.checkEdge (s.without more) (LayerFiles.without layers more) layer file
      edge = some v) : b.checkEdge s layers layer file edge = some v := by
  unfold checkEdge at h ⊢
  have hview : (s.without more).view = s.view := rfl
  rw [hview] at h
  cases hresolve : Import.resolve s.view edge.specifier file with
  | external => simp [hresolve] at h
  | unresolved =>
    simp only [hresolve] at h ⊢
    exact h
  | file target =>
    simp only [hresolve] at h ⊢
    cases howner : LayerFiles.owner? (LayerFiles.without layers more) target with
    | none => simp [howner] at h
    | some other =>
      rw [howner] at h
      rw [LayerFiles.owner?_of_without howner]
      exact h

/-- An import of a file that is left out leads to no layer. -/
theorem checkFile_without_sublist (b : ImportBoundary) :
    (b.checkFile (s.without more) (LayerFiles.without layers more) file).Sublist
      (b.checkFile s layers file) := by
  unfold checkFile
  cases howner : LayerFiles.owner? (LayerFiles.without layers more) file with
  | none => exact List.nil_sublist _
  | some layer =>
    rw [LayerFiles.owner?_of_without howner]
    exact Scope.inText_sublist fun text =>
      filterMap_sublist (fun edge v h => checkEdge_of_without h) _

end ImportBoundary

section Checks

variable {t : Tree} (ht : t.WellFormed) {s : Scope} (hview : s.view = t.view) (more : IgnoreSet)
include ht hview

theorem Relationship.check_without (r : Relationship) :
    Thinned (s.ignore.union more) (r.check (s.without more)) (r.check s) := by
  rw [check, check, Scope.filesOf_without ht hview]
  exact thinned_flatMap (fun x hx => Scope.not_ignored_of_mem_filesOf hx)
    (fun x _ _ => List.Sublist.refl _) fun x v hv => (makes_of_mem_checkFile hv).place

theorem ForbiddenImport.check_without (f : ForbiddenImport) :
    Thinned (s.ignore.union more) (f.check (s.without more)) (f.check s) := by
  rw [check, check, Scope.filesOf_without ht hview]
  exact thinned_flatMap (fun x hx => Scope.not_ignored_of_mem_filesOf hx)
    (fun x _ _ => List.Sublist.refl _) fun x v hv => (makes_of_mem_checkFile hv).place

theorem FileContent.check_without (c : FileContent) :
    Thinned (s.ignore.union more) (c.check (s.without more)) (c.check s) := by
  rw [check, check, Scope.filesOf_without ht hview]
  exact thinned_flatMap (fun x hx => Scope.not_ignored_of_mem_filesOf hx)
    (fun x _ _ => List.Sublist.refl _) fun x v hv => (makes_of_mem_checkFile hv).place

theorem DirectoryStructure.check_without (d : DirectoryStructure) :
    Thinned (s.ignore.union more) (d.check (s.without more)) (d.check s) := by
  rw [check, check, Scope.dirsOf_without ht hview]
  exact thinned_flatMap (fun x hx => Scope.not_ignored_of_mem_dirsOf hx)
    (fun x _ _ => List.Sublist.refl _) fun x v hv => (makes_of_mem_checkDir hv).place

theorem PublicApi.check_without (api : PublicApi) :
    Thinned (s.ignore.union more) (api.check (s.without more)) (api.check s) := by
  let roots := s.view.moduleRoots api.modules s.ignore
  let fewer := s.view.moduleRoots api.modules (s.ignore.union more)
  have hroots : Apart roots := by
    simpa only [roots, hview] using moduleRoots_apart ht api.modules s.ignore
  have hfewer : Apart fewer := by
    simpa only [fewer, hview] using moduleRoots_apart ht api.modules (s.ignore.union more)
  have hsub : fewer ⊆ roots := Scope.moduleRoots_without ht hview more api.modules
  rw [check, check, Scope.select_without ht hview]
  refine thinned_flatMap (fun x hx => Scope.not_ignored_of_mem_select hx) ?_
    fun x v hv => (makes_of_mem_checkFile hv).place
  intro file hfile _
  refine Scope.inText_sublist fun text => filterMap_sublist (fun edge v h => ?_) _
  exact checkEdge_mono ht hview more hroots hfewer hsub
    (Scope.canonical_of_mem_select ht hview hfile) h

theorem ImportBoundary.check_without (b : ImportBoundary) :
    Thinned (s.ignore.union more) (b.check (s.without more)) (b.check s) := by
  let layers := b.layerFiles s
  let fewer := LayerFiles.without layers more
  have hlayers : b.layerFiles (s.without more) = fewer := by
    simp only [fewer, layers, layerFiles, LayerFiles.without, List.map_map]
    exact List.map_congr_left fun l _ => by
      rw [Function.comp_apply, Scope.filesOf_without ht hview]
  have hpaths : ∀ x ∈ LayerFiles.all layers, s.ignore.isIgnored x = false := fun x hx =>
    not_ignored_of_mem_all hx
  simp only [check, hlayers, fewer, LayerFiles.all_without, List.filterMap_eq_flatMap_toList]
  refine (thinned_flatMap hpaths ?_ ?_).append (thinned_flatMap hpaths ?_ ?_)
  · intro file _ hkeep
    rw [overlap_without hkeep]
  · exact fun x v hv => (makes_of_overlap (Option.mem_toList.mp hv)).place
  · exact fun file _ _ => b.checkFile_without_sublist
  · exact fun x v hv => (makes_of_mem_checkFile hv).place

end Checks

/-- Leaving more out keeps some findings of a rule as they are and in their order, and adds none.
None of them is in a path that is left out. -/
theorem RuleKind.check_union_thinned (kind : RuleKind) (ruleId : String) (severity : Severity)
    (message : Option String) (entries : List (String × String)) (included : List Pattern)
    (ignore more : IgnoreSet) :
    Thinned (ignore.union more)
      (kind.check ⟨ruleId, severity, message, (Tree.ofList entries).view, ignore.union more,
        included⟩)
      (kind.check ⟨ruleId, severity, message, (Tree.ofList entries).view, ignore, included⟩) := by
  have ht := Tree.wellFormed_ofList entries
  let s : Scope := ⟨ruleId, severity, message, (Tree.ofList entries).view, ignore, included⟩
  have hview : s.view = (Tree.ofList entries).view := rfl
  cases kind with
  | importBoundary b => exact b.check_without ht hview more
  | publicApi api => exact api.check_without ht hview more
  | relationship r => exact r.check_without ht hview more
  | forbiddenImport f => exact f.check_without ht hview more
  | fileContent c => exact c.check_without ht hview more
  | directoryStructure d => exact d.check_without ht hview more
  | unsupported kind => exact ⟨.slnil, by simp [RuleKind.check]⟩

end TreeLint
