import TreeLint.IgnoreSet
import TreeLint.Proofs.Path
import TreeLint.Proofs.Pattern

/-!
What is pruned is ignored, and so is everything below it.
-/
namespace TreeLint.IgnoreSet

theorem prunes_iff (ignore : IgnoreSet) (dir : ProjectPath) :
    ignore.prunes dir = true ↔
      (∃ r ∈ ignore.roots, dir.startsWith r = true) ∨
        ∃ p ∈ ignore.patterns, p.endsRecursive = true ∧ p.isMatch dir = true := by
  simp [prunes]

theorem isIgnored_iff (ignore : IgnoreSet) (path : ProjectPath) :
    ignore.isIgnored path = true ↔
      (∃ r ∈ ignore.roots, path.startsWith r = true) ∨
        ∃ p ∈ ignore.patterns, p.isMatch path = true := by
  simp [isIgnored]

theorem isIgnored_union (ignore more : IgnoreSet) (path : ProjectPath) :
    (ignore.union more).isIgnored path = (ignore.isIgnored path || more.isIgnored path) := by
  rw [Bool.eq_iff_iff, Bool.or_eq_true, isIgnored_iff, isIgnored_iff, isIgnored_iff]
  simp only [union, List.mem_append, or_and_right, exists_or]
  exact or_or_or_comm

/-- A pruned directory hides all that lies below it from a walk. -/
theorem prunes_below {ignore : IgnoreSet} {dir path : ProjectPath} (hdir : dir.Canonical)
    (hpath : path.Canonical) (hbelow : dir.segments <+: path.segments)
    (h : ignore.prunes dir = true) : ignore.prunes path = true := by
  rw [prunes_iff] at h ⊢
  rcases h with ⟨r, hr, hstart⟩ | ⟨p, hp, hlast, hmatch⟩
  · have hunder : path.startsWith dir = true := (ProjectPath.startsWith_iff hpath hdir).mpr hbelow
    exact Or.inl ⟨r, hr, ProjectPath.startsWith_trans hunder hstart⟩
  · exact Or.inr ⟨p, hp, hlast, Pattern.isMatch_below hlast hmatch hbelow⟩

theorem isIgnored_of_prunes {ignore : IgnoreSet} {path : ProjectPath}
    (h : ignore.prunes path = true) : ignore.isIgnored path = true := by
  rw [prunes_iff] at h
  rw [isIgnored_iff]
  rcases h with h | ⟨p, hp, -, hmatch⟩
  · exact Or.inl h
  · exact Or.inr ⟨p, hp, hmatch⟩

end TreeLint.IgnoreSet
