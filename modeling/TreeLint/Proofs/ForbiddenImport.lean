import TreeLint.Check.ForbiddenImport
import TreeLint.Proofs.Finds
import TreeLint.Proofs.Resolution
import TreeLint.Proofs.SelectedFiles

/-!
Which imports are found forbidden. Each is told of once, whether one entry of the rule forbids it or
several, and by its specifier or by the file that it leads to. So neither the order of the entries
nor repetitions show in a finding, but for the reason that it gives.
-/
namespace TreeLint

/-- A finding without its reason. -/
def Violation.bare (v : Violation) : Violation := { v with context := none }

namespace ForbiddenImport

section Meaning

variable (f : ForbiddenImport) (s : Scope)

/-- An import is forbidden by its specifier, or as a relative one by the file that it leads to. -/
def Forbids (file : ProjectPath) (edge : Import.Edge) : Prop :=
  (∃ e ∈ f.deny, e.isMatch edge.specifier = true) ∨
    Import.isRelative edge.specifier = true ∧
      ∃ target ∈ (Import.resolve s.view edge.specifier file).file?,
        ∃ p ∈ f.denyPaths, p.isMatch target = true

instance (file : ProjectPath) (edge : Import.Edge) : Decidable (f.Forbids s file edge) :=
  inferInstanceAs (Decidable ((∃ e ∈ f.deny, e.isMatch edge.specifier = true) ∨
    Import.isRelative edge.specifier = true ∧
      ∃ target ∈ (Import.resolve s.view edge.specifier file).file?,
        ∃ p ∈ f.denyPaths, p.isMatch target = true))

/-- What is told of a forbidden import, but for the reason. -/
def finding (file : ProjectPath) (edge : Import.Edge) : Violation :=
  s.violation "IMP001" (.onLine file edge.line) s!"import of `{edge.specifier}` is forbidden"

end Meaning

section Edges

variable {f : ForbiddenImport} {s : Scope} {file : ProjectPath} {edge : Import.Edge}

/-- There is a reason where an import is forbidden. -/
theorem isSome_reason? : (f.reason? s file edge).isSome = true ↔ f.Forbids s file edge := by
  unfold reason? Forbids
  by_cases hdeny : ∃ e ∈ f.deny, e.isMatch edge.specifier = true
  · obtain ⟨e, he⟩ := Option.isSome_iff_exists.mp (List.find?_isSome.mpr hdeny)
    rw [he]
    exact iff_of_true rfl (.inl hdeny)
  · have hnone : f.deny.find? (·.isMatch edge.specifier) = none := by simpa using hdeny
    rw [hnone, or_iff_right hdeny]
    cases htarget : (Import.resolve s.view edge.specifier file).file? with
    | none => simp
    | some target =>
      have hfound : (f.denyPaths.find? (·.isMatch target)).isSome = true ↔
          ∃ p ∈ f.denyPaths, p.isMatch target = true :=
        List.find?_isSome
      simp only [Import.isRelative_of_resolve htarget, true_and, Option.mem_def, Option.some.injEq,
        exists_eq_left', ← hfound]
      cases hpath : f.denyPaths.find? (·.isMatch target) <;> simp [hpath]

theorem map_bare_checkEdge :
    (f.checkEdge s file edge).map Violation.bare =
      if f.Forbids s file edge then some (finding s file edge) else none := by
  rw [checkEdge, Option.map_map]
  by_cases h : f.Forbids s file edge
  · obtain ⟨reason, hreason⟩ := Option.isSome_iff_exists.mp (isSome_reason?.mpr h)
    rw [if_pos h, hreason]
    rfl
  · rw [if_neg h, Option.map_eq_none_iff, ← Option.not_isSome_iff_eq_none, isSome_reason?]
    exact h

end Edges

/-- The entries of a rule count, and neither their order nor how often each is given. -/
theorem forbids_congr {f g : ForbiddenImport} (hdeny : ∀ e, e ∈ f.deny ↔ e ∈ g.deny)
    (hpaths : ∀ p, p ∈ f.denyPaths ↔ p ∈ g.denyPaths) (s : Scope) (file : ProjectPath)
    (edge : Import.Edge) : f.Forbids s file edge ↔ g.Forbids s file edge := by
  simp only [Forbids, hdeny, hpaths]

theorem map_bare_check {t : Tree} (ht : t.WellFormed) {s : Scope} (hview : s.view = t.view)
    (f : ForbiddenImport) :
    (f.check s).map Violation.bare =
      (t.files.filter fun entry => t.Selects f.files s.ignore entry.1).flatMap fun entry =>
        ((Import.edges entry.2 f.extract).filter (f.Forbids s entry.1 ·)).map
          (finding s entry.1) := by
  have hcheck : f.check s = (s.filesOf f.files).flatMap fun file => s.inText file fun text =>
      (Import.edges text f.extract).filterMap (f.checkEdge s file) := rfl
  rw [hcheck, Scope.flatMap_filesOf_inText ht hview, List.map_flatMap]
  refine List.flatMap_congr fun entry _ => ?_
  rw [List.map_filterMap, ← List.filterMap_eq_map, List.filterMap_filter]
  refine List.filterMap_congr fun edge _ => ?_
  simp [map_bare_checkEdge]

/-- A client with an import from the server that is forbidden by its specifier and by the file that it
leads to. -/
def clientProject : List (String × String) :=
  [("src/client/app.ts", "import 'fs';\nimport '../server/db';\nimport './util';"),
    ("src/client/util.ts", ""), ("src/server/db.ts", "import 'fs';")]

def clientRule : ForbiddenImport where
  files := ⟨"src/client/**", [.literal "src", .literal "client", .recursive]⟩
  deny := [⟨"fs", (Regex.literal "fs".toList).matcher⟩, ⟨"db", (Regex.literal "db".toList).matcher⟩]
  denyPaths := [⟨"src/server/**", [.literal "src", .literal "server", .recursive]⟩]
  extract := {}

def clientScope : Scope := ⟨"client", .error, none, (Tree.ofList clientProject).view, .empty, []⟩

end ForbiddenImport
end TreeLint
