import Mathlib.Data.List.Nodup
import TreeLint.Proofs.Readers

/-!
What is found in a text. Each reader finds things of its own kinds, and all finds are put in the
order in which they start. So to ask for fewer kinds is to leave some of the finds out.
-/
namespace TreeLint

section Stability

variable {α : Type} {le : α → α → Bool}

theorem takeWhile_of_cut {p : α → Bool} {before after : List α} (hbefore : ∀ b ∈ before, p b = true)
    (hafter : ∀ b ∈ after, p b = false) : (before ++ after).takeWhile p = before := by
  rw [List.takeWhile_append_of_pos hbefore]
  cases after with
  | nil => simp
  | cons b rest => simp [hafter b (by simp)]

variable (htrans : ∀ a b c, le a b = true → le b c = true → le a c = true)
  (htotal : ∀ a b, (le a b || le b a) = true)
include htrans htotal

/-- The first item of a list is put before all that are not less than it, and after all others. -/
theorem exists_cut_mergeSort (a : α) (xs : List α) :
    ∃ before after, (a :: xs).mergeSort le = before ++ a :: after ∧
      xs.mergeSort le = before ++ after ∧
      (∀ b ∈ before, (!le a b) = true) ∧ ∀ b ∈ after, (!le a b) = false := by
  obtain ⟨before, after, hsorted, hrest, hbefore⟩ := List.mergeSort_cons htrans htotal a xs
  have hpairs := List.pairwise_mergeSort htrans htotal (a :: xs)
  rw [hsorted] at hpairs
  refine ⟨before, after, hsorted, hrest, hbefore, fun b hb => ?_⟩
  simpa using (List.pairwise_cons.mp (List.pairwise_append.mp hpairs).2.1).1 b hb

/-- Items may be left out before a list is sorted or after. -/
theorem filter_mergeSort (p : α → Bool) (xs : List α) :
    (xs.mergeSort le).filter p = (xs.filter p).mergeSort le := by
  induction xs with
  | nil => simp
  | cons a xs ih =>
    obtain ⟨before, after, hsorted, hrest, hbefore, hafter⟩ :=
      exists_cut_mergeSort htrans htotal a xs
    rw [hrest, List.filter_append] at ih
    rw [hsorted, List.filter_append]
    cases hp : p a with
    | false =>
      rw [List.filter_cons_of_neg (by simp [hp]), List.filter_cons_of_neg (by simp [hp]), ih]
    | true =>
      rw [List.filter_cons_of_pos hp, List.filter_cons_of_pos hp]
      obtain ⟨before', after', hsorted', hrest', hbefore', hafter'⟩ :=
        exists_cut_mergeSort htrans htotal a (xs.filter p)
      have hcut : before.filter p ++ after.filter p = before' ++ after' := ih.trans hrest'
      have hsame : before.filter p = before' := by
        rw [← takeWhile_of_cut (fun b hb => hbefore b (List.mem_of_mem_filter hb))
          (fun b hb => hafter b (List.mem_of_mem_filter hb)), hcut,
          takeWhile_of_cut hbefore' hafter']
      rw [hsame] at hcut ⊢
      rw [List.append_cancel_left hcut, hsorted']

end Stability

theorem Line.ofChar_le (cs : List Char) {m n : ℕ} (h : m ≤ n) :
    Line.ofChar cs m ≤ Line.ofChar cs n :=
  Nat.add_le_add_right (((List.take_prefix_take_left h).sublist).count_le _) 1

namespace Import

open Reader

section Scan

variable {α : Type} {reader : Reader α}

/-- What a scan finds is what the reader prefers at the place of the find. -/
theorem mem_scan {skip offset : ℕ} {before : Option Char} {cs : List Char} {start : ℕ} {found : α}
    (h : (start, found) ∈ scan reader skip offset before cs) :
    ∃ passed rest, cs = passed ++ rest ∧ start = offset + passed.length ∧
      ∃ previous stop, reader.first? ⟨previous, rest⟩ = some (found, stop) := by
  induction cs generalizing skip offset before with
  | nil => simp [scan] at h
  | cons c rest ih =>
    -- a find further on has one more character before it
    have hlater {skip : ℕ} (hmem : (start, found) ∈ scan reader skip (offset + 1) (some c) rest) :
        ∃ passed left, c :: rest = passed ++ left ∧ start = offset + passed.length ∧
          ∃ previous stop, reader.first? ⟨previous, left⟩ = some (found, stop) := by
      obtain ⟨passed, left, rfl, rfl, hfirst⟩ := ih hmem
      exact ⟨c :: passed, left, rfl, by simp only [List.length_cons]; omega, hfirst⟩
    cases skip with
    | succ n => exact hlater h
    | zero =>
      simp only [scan] at h
      split at h
      · next stop hfirst =>
        rcases List.mem_cons.mp h with heq | hmem
        · obtain ⟨rfl, rfl⟩ := Prod.mk.inj heq
          exact ⟨[], c :: rest, rfl, rfl, before, _, hfirst⟩
        · exact hlater hmem
      · exact hlater h

theorem mem_findAll {cs : List Char} {start : ℕ} {found : α}
    (h : (start, found) ∈ findAll reader cs) :
    ∃ passed rest, cs = passed ++ rest ∧ start = passed.length ∧
      ∃ previous stop, reader.first? ⟨previous, rest⟩ = some (found, stop) := by
  simpa [findAll] using mem_scan h

end Scan

section Finds

theorem mem_findAll_reader {k : Construct} {cs : List Char} {start : ℕ} {kind : EdgeKind}
    {specifier : String} (h : (start, kind, specifier) ∈ findAll k.reader cs) :
    kind ∈ k.kinds ∧ IsSpecifier specifier ∧
      ∃ passed rest, cs = passed ++ (k.word.toList ++ rest) ∧ start = passed.length ∧
        Quotes specifier rest := by
  obtain ⟨passed, rest, heq, hstart, previous, stop, hfirst⟩ := mem_findAll h
  obtain ⟨hkind, hspecifier, after, hrest, -, hquotes⟩ :=
    Construct.mem_reader (List.mem_of_mem_head? hfirst)
  exact ⟨hkind, hspecifier, passed, after, heq.trans (congrArg (passed ++ ·) hrest), hstart,
    hquotes⟩

/-- What is found of a construct that is of one kind is asked for as a whole or not at all. -/
theorem filter_wants_findAll (o : Options) {k : Construct} {kind : EdgeKind}
    (hkind : k.kinds = [kind]) (cs : List Char) :
    (findAll k.reader cs).filter (o.wants ·.2.1) =
      if o.wants kind then findAll k.reader cs else [] := by
  have hall : ∀ found ∈ findAll k.reader cs, found.2.1 = kind := by
    rintro ⟨start, kind', specifier⟩ hfound
    obtain ⟨hmem, -⟩ := mem_findAll_reader hfound
    rw [hkind] at hmem
    exact List.mem_singleton.mp hmem
  split_ifs with hwants
  · exact List.filter_eq_self.mpr fun found hfound => by rw [hall found hfound, hwants]
  · exact List.filter_eq_nil_iff.mpr fun found hfound => by rwa [hall found hfound]

/-- To pass over what is not asked for is to look for everything, and to keep what is asked for. -/
theorem finds_eq (o : Options) (cs : List Char) :
    finds o cs = ((Construct.all.flatMap fun k => findAll k.reader cs).filter
      (o.wants ·.2.1)).mergeSort (fun a b => a.1 ≤ b.1) := by
  have hdynamic : (findAll importCall cs).filter (o.wants ·.2.1) =
      if o.dynamic then findAll importCall cs else [] :=
    filter_wants_findAll o (k := .importCall) rfl cs
  have hrequire : (findAll requireCall cs).filter (o.wants ·.2.1) =
      if o.require then findAll requireCall cs else [] :=
    filter_wants_findAll o (k := .requireCall) rfl cs
  simp only [finds, Construct.all, List.flatMap_cons, List.flatMap_nil, List.append_nil,
    Construct.reader, List.filter_append, hdynamic, hrequire, List.append_assoc]

theorem mem_finds {o : Options} {cs : List Char} {found : ℕ × EdgeKind × String} :
    found ∈ finds o cs ↔
      (∃ k : Construct, found ∈ findAll k.reader cs) ∧ o.wants found.2.1 = true := by
  have hall : ∀ k : Construct, k ∈ Construct.all := fun k => by cases k <;> decide
  rw [finds_eq, List.mem_mergeSort, List.mem_filter, List.mem_flatMap]
  simp [hall]

theorem start_trans (a b c : ℕ × EdgeKind × String) (hab : decide (a.1 ≤ b.1) = true)
    (hbc : decide (b.1 ≤ c.1) = true) : decide (a.1 ≤ c.1) = true :=
  decide_eq_true ((of_decide_eq_true hab).trans (of_decide_eq_true hbc))

theorem start_total (a b : ℕ × EdgeKind × String) :
    (decide (a.1 ≤ b.1) || decide (b.1 ≤ a.1)) = true := by
  simpa using le_total a.1 b.1

theorem finds_sorted (o : Options) (cs : List Char) : (finds o cs).Pairwise (·.1 ≤ ·.1) :=
  (List.pairwise_mergeSort start_trans start_total _).imp of_decide_eq_true

theorem Options.wants_all (kind : EdgeKind) : Options.wants ⟨true, true, true⟩ kind = true := by
  cases kind <;> rfl

theorem finds_eq_filter (o : Options) (cs : List Char) :
    finds o cs = (finds ⟨true, true, true⟩ cs).filter (o.wants ·.2.1) := by
  rw [finds_eq, finds_eq, filter_mergeSort start_trans start_total, List.filter_filter]
  simp [Options.wants_all]

/-- What is found, in whatever order, is put in the order in which it starts. -/
theorem finds_eq_of_perm {cs : List Char} {found : List (ℕ × EdgeKind × String)}
    (hperm : (Construct.all.flatMap fun k => findAll k.reader cs).Perm found)
    (hsorted : found.Pairwise (·.1 < ·.1)) : finds ⟨true, true, true⟩ cs = found := by
  have hfinds : (finds ⟨true, true, true⟩ cs).Perm found := by
    rw [finds_eq, List.filter_eq_self.mpr fun f _ => Options.wants_all f.2.1]
    exact (List.mergeSort_perm _ _).trans hperm
  have hstarts : (found.map (·.1)).Nodup :=
    (List.pairwise_map.mpr hsorted).imp fun h => h.ne
  refine List.Perm.eq_of_pairwise (fun f f' hf hf' hle hge => ?_) (finds_sorted _ cs)
    (hsorted.imp fun h => h.le) hfinds
  exact List.inj_on_of_nodup_map hstarts (hfinds.mem_iff.mp hf) hf' (le_antisymm hle hge)

end Finds

theorem mem_edges {source : String} {o : Options} {e : Edge} :
    e ∈ edges source o ↔
      ∃ start, (start, e.kind, e.specifier) ∈ finds o (stripComments source).toList ∧
        e.line = Line.ofChar (stripComments source).toList start := by
  rw [edges, List.mem_map]
  constructor
  · rintro ⟨⟨start, kind, specifier⟩, hfound, rfl⟩
    exact ⟨start, hfound, rfl⟩
  · rintro ⟨start, hfound, hline⟩
    obtain ⟨specifier, line, kind⟩ := e
    exact ⟨_, hfound, congrArg (Edge.mk specifier · kind) hline.symm⟩

/-- The modules that a text names are listed by the lines on which they are named. -/
theorem edges_sorted (source : String) (o : Options) :
    ((edges source o).map (·.line)).Pairwise (· ≤ ·) := by
  rw [edges, List.map_map, List.pairwise_map]
  exact (finds_sorted o _).imp fun h => Line.ofChar_le _ h

/-- To ask for fewer kinds takes the modules named in the other ways off the list, and changes
nothing else. -/
theorem edges_eq_filter_wants (source : String) (o : Options) :
    edges source o = (edges source ⟨true, true, true⟩).filter (o.wants ·.kind) := by
  simp only [edges]
  rw [finds_eq_filter o, List.filter_map]
  rfl

end Import
end TreeLint
