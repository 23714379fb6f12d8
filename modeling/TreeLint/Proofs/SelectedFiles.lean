import TreeLint.Check.Scope
import TreeLint.Proofs.Walk

/-!
The files that a rule looks at, told by the tree that it is checked against: those that match the
rule's pattern and are not ignored, in ascending order, each with its text.
-/
namespace TreeLint

/-- A file that a pattern selects. Where the pattern ends in `**` it is the directory of the file
that has to match. -/
def Tree.Selects (t : Tree) (p : Pattern) (ignore : IgnoreSet) (file : ProjectPath) : Prop :=
  t.isFile file = true ∧ t.isDir file = false ∧ ignore.isIgnored file = false ∧
    p.isMatch (if p.endsRecursive then file.parent else file) = true

instance (t : Tree) (p : Pattern) (ignore : IgnoreSet) (file : ProjectPath) :
    Decidable (t.Selects p ignore file) :=
  inferInstanceAs (Decidable (_ ∧ _ ∧ _ ∧ _))

namespace Scope

variable {t : Tree} (ht : t.WellFormed) {s : Scope} (hview : s.view = t.view)
include ht hview

theorem mem_filesOf (p : Pattern) (file : ProjectPath) :
    file ∈ s.filesOf p ↔ t.Selects p s.ignore file := by
  rw [filesOf, hview, FileView.mem_matchFiles ht, Tree.Selects]

theorem filesOf_eq (p : Pattern) : s.filesOf p = t.paths.filter (t.Selects p s.ignore ·) := by
  refine (FileView.matchFiles_sorted _ p _).eq_of_mem_iff (ht.files_sorted.filter _) fun file => ?_
  rw [← filesOf, mem_filesOf ht hview, List.mem_filter, decide_eq_true_eq, iff_and_self]
  exact fun h => (t.isFile_iff file).mp h.1

/-- What is told of the texts of the selected files is told entry by entry of the tree. -/
theorem flatMap_filesOf_inText (p : Pattern) (tell : ProjectPath → String → List Violation) :
    (s.filesOf p).flatMap (fun file => s.inText file (tell file)) =
      (t.files.filter fun entry => t.Selects p s.ignore entry.1).flatMap fun entry =>
        tell entry.1 entry.2 := by
  rw [filesOf_eq ht hview, Tree.paths_filter, List.flatMap_map]
  refine List.flatMap_congr fun entry hentry => ?_
  have htext : s.view.text? entry.1 = some entry.2 := by
    rw [hview]
    exact ht.text?_of_mem (List.mem_of_mem_filter hentry)
  rw [inText, htext]

end Scope
end TreeLint
