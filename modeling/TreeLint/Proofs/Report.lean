import Mathlib.Data.Prod.Lex
import Mathlib.Data.String.Basic
import Mathlib.Order.Lattice.Nat
import Mathlib.Order.WithBot
import TreeLint.Proofs.Ascending
import TreeLint.Run.Report

/-!
The findings of a report are in ascending order of their keys, and those with the same key are in the
order in which they were found. So what was found under each key settles a whole report. Sorted by
rules, each finding is in one place.
-/
namespace TreeLint

namespace Violation

/-- What findings are ordered by: file, rule, line, column and code, compared one after the other. No
line and no column are `⊥`, which is less than every number. -/
abbrev Key : Type := String ×ₗ String ×ₗ WithBot ℕ ×ₗ WithBot ℕ ×ₗ String

def key (v : Violation) : Key :=
  toLex (v.location.file.text, toLex (v.ruleId, toLex (v.location.line,
    toLex (v.location.column, v.code))))

theorem isLE_then_iff {α β : Type} [LinearOrder α] [LinearOrder β] {a a' : α} {b b' : β}
    {c : Ordering} (h : c.isLE = true ↔ b ≤ b') :
    ((compare a a').then c).isLE = true ↔ toLex (a, b) ≤ toLex (a', b') := by
  rw [Ordering.isLE_then_iff_or, Prod.Lex.toLex_le_toLex, compare_lt_iff_lt, compare_eq_iff_eq, h]

theorem compare_option (a b : Option ℕ) : compare a b = compare (α := WithBot ℕ) a b := by
  cases a with
  | none => cases b <;> rfl
  | some m =>
    cases b with
    | none => rfl
    | some n =>
      calc compare (some m) (some n) = cmp m n := (cmp_eq_compare m n).symm
        _ = cmp (m : WithBot ℕ) n := (WithBot.coe_strictMono.cmp_map_eq m n).symm
        _ = compare (m : WithBot ℕ) n := cmp_eq_compare _ _

theorem order_isLE_iff (a b : Violation) : (a.order b).isLE = true ↔ a.key ≤ b.key := by
  unfold order key
  rw [compare_option, compare_option]
  refine isLE_then_iff (isLE_then_iff (isLE_then_iff (isLE_then_iff ?_)))
  exact Ordering.isLE_iff_ne_gt.trans compare_le_iff_le

end Violation

namespace Report

/-- Findings in ascending order of their keys. -/
def Ordered (findings : List Violation) : Prop := findings.Pairwise fun a b => a.key ≤ b.key

section Sorted

variable (found : List Violation)

theorem sorted_perm : (sorted found).Perm found := List.mergeSort_perm found _

theorem order_trans (a b c : Violation) (hab : (a.order b).isLE = true)
    (hbc : (b.order c).isLE = true) : (a.order c).isLE = true := by
  rw [Violation.order_isLE_iff] at hab hbc ⊢
  exact hab.trans hbc

theorem order_total (a b : Violation) : ((a.order b).isLE || (b.order a).isLE) = true := by
  rw [Bool.or_eq_true, Violation.order_isLE_iff, Violation.order_isLE_iff]
  exact le_total a.key b.key

theorem sorted_ordered : Ordered (sorted found) :=
  (List.pairwise_mergeSort order_trans order_total found).imp fun h =>
    (Violation.order_isLE_iff _ _).mp h

variable {found} in
theorem sorted_eq_self (h : found.Pairwise fun a b => (a.order b).isLE = true) :
    sorted found = found :=
  List.mergeSort_of_pairwise h

theorem filter_key_sorted (k : Violation.Key) :
    (sorted found).filter (·.key = k) = found.filter (·.key = k) := by
  have hties : (found.filter (·.key = k)).Pairwise fun a b => (a.order b).isLE = true := by
    refine List.pairwise_of_forall_mem_list fun a ha b hb => ?_
    rw [Violation.order_isLE_iff, of_decide_eq_true (List.mem_filter.mp ha).2,
      of_decide_eq_true (List.mem_filter.mp hb).2]
  -- what is in order already keeps its order when it is sorted with the rest
  have hkept : (found.filter (·.key = k)).Sublist (sorted found) :=
    List.sublist_mergeSort order_trans order_total hties List.filter_sublist
  have hsub : (found.filter (·.key = k)).Sublist ((sorted found).filter (·.key = k)) := by
    simpa using hkept.filter (·.key = k)
  exact (hsub.eq_of_length ((sorted_perm found).filter _).length_eq.symm).symm

end Sorted

theorem mem_of_filter_key {xs ys : List Violation}
    (h : ∀ k, xs.filter (·.key = k) = ys.filter (·.key = k)) {v : Violation} (hv : v ∈ xs) :
    v ∈ ys := by
  have hmem : v ∈ xs.filter (·.key = v.key) := by simp [hv]
  rw [h] at hmem
  exact List.mem_of_mem_filter hmem

/-- There is only one way to put findings in order when it is known what is found under each key. -/
theorem Ordered.eq_of_filter_key {xs ys : List Violation} (hxs : Ordered xs) (hys : Ordered ys)
    (h : ∀ k, xs.filter (·.key = k) = ys.filter (·.key = k)) : xs = ys := by
  induction xs generalizing ys with
  | nil =>
    cases ys with
    | nil => rfl
    | cons y ys => simpa using h y.key
  | cons x xs ih =>
    cases ys with
    | nil => simpa using h x.key
    | cons y ys =>
      obtain ⟨hx, hxs'⟩ := List.pairwise_cons.mp hxs
      obtain ⟨hy, hys'⟩ := List.pairwise_cons.mp hys
      have hxy : x.key ≤ y.key := by
        rcases List.mem_cons.mp (mem_of_filter_key (fun k => (h k).symm) (List.mem_cons_self ..))
          with heq | hmem
        · exact (congrArg Violation.key heq).ge
        · exact hx y hmem
      have hyx : y.key ≤ x.key := by
        rcases List.mem_cons.mp (mem_of_filter_key h (List.mem_cons_self ..)) with heq | hmem
        · exact (congrArg Violation.key heq).ge
        · exact hy x hmem
      -- the heads have the same key, so that they are the first findings under it
      have hhead := h x.key
      rw [List.filter_cons_of_pos (by simp), List.filter_cons_of_pos (by simp [hyx.antisymm hxy])]
        at hhead
      obtain rfl := (List.cons.inj hhead).1
      congr 1
      refine ih hxs' hys' fun k => ?_
      have hk := h k
      rw [List.filter_cons, List.filter_cons] at hk
      split_ifs at hk with hkey
      · exact (List.cons.inj hk).2
      · exact hk

theorem sorted_congr {xs ys : List Violation}
    (h : ∀ k, xs.filter (·.key = k) = ys.filter (·.key = k)) : sorted xs = sorted ys := by
  refine (sorted_ordered xs).eq_of_filter_key (sorted_ordered ys) fun k => ?_
  rw [filter_key_sorted, filter_key_sorted, h]

/-- What is left out of findings could as well be left out of the report. -/
theorem filter_sorted (p : Violation → Bool) (found : List Violation) :
    (sorted found).filter p = sorted (found.filter p) := by
  refine Ordered.eq_of_filter_key ((sorted_ordered found).filter p) (sorted_ordered _) fun k => ?_
  rw [filter_key_sorted, List.filter_comm, filter_key_sorted, List.filter_comm]

section ByRule

variable (r : Report)

theorem map_fst_byRule : r.byRule.map (·.1) = Ascending.ofList (r.violations.map (·.ruleId)) := by
  rw [byRule, List.map_map]
  exact List.map_id _

theorem find?_byRule (id : String) : Ascending.find? id r.byRule =
    if id ∈ r.violations.map (·.ruleId) then some (r.violations.filter (·.ruleId = id))
    else none := by
  rw [byRule, Ascending.find?_map_key]
  simp only [Ascending.mem_ofList]

/-- Each finding is listed under one rule. -/
theorem byRule_perm : (r.byRule.flatMap (·.2)).Perm r.violations := by
  let ids := Ascending.ofList (r.violations.map (·.ruleId))
  have hall : r.violations.filter (·.ruleId ∈ ids) = r.violations :=
    List.filter_eq_self.mpr fun v hv => decide_eq_true
      ((Ascending.mem_ofList _ _).mpr (List.mem_map_of_mem hv))
  have hids : ids.Nodup := (Ascending.ofList_sorted _).imp fun h => h.ne
  have hperm := Ascending.flatMap_filter_perm (·.ruleId) r.violations hids
  rw [hall] at hperm
  rwa [byRule, List.flatMap_map]

end ByRule

end Report
end TreeLint
