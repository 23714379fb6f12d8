import TreeLint.Proofs.Tree

/-!
What a tree holds after any insertions, told by the entries that were put in: each file has the text
that it was given last, the directories are those that files lie in, and each directory lists what
lies in it by names, in order.
-/
namespace TreeLint

open ProjectPath

namespace Tree

theorem ofList_concat (entries : List (String × String)) (e : String × String) :
    ofList (entries ++ [e]) = (ofList entries).insert e.1 e.2 := by
  rw [ofList, List.foldl_append]
  rfl

/-- A file has the text that it was given last. -/
theorem text?_ofList (entries : List (String × String)) (p : ProjectPath) :
    (ofList entries).text? p =
      (entries.reverse.find? fun e => normalize? e.1 = some p).map (·.2) := by
  induction entries using List.reverseRecOn with
  | nil => rfl
  | append_singleton entries e ih =>
    rw [ofList_concat, List.reverse_append, List.reverse_singleton, List.singleton_append,
      List.find?_cons]
    cases h : normalize? e.1 with
    | none => simpa [insert_of_none h] using ih
    | some q =>
      rw [text?_insert h, ih]
      by_cases hq : p = q
      · simp [hq]
      · simp [hq, Ne.symm hq]

theorem isFile_ofList (entries : List (String × String)) (p : ProjectPath) :
    (ofList entries).isFile p = true ↔ ∃ e ∈ entries, normalize? e.1 = some p := by
  rw [isFile_iff, mem_paths_ofList, targets, List.mem_filterMap]

/-- Entries whose paths climb above the root change nothing. -/
theorem ofList_filter (entries : List (String × String)) :
    ofList (entries.filter fun e => (normalize? e.1).isSome) = ofList entries := by
  induction entries using List.reverseRecOn with
  | nil => rfl
  | append_singleton entries e ih =>
    rw [List.filter_append, ofList_concat]
    cases h : normalize? e.1 with
    | none => simpa [h, insert_of_none h] using ih
    | some p =>
      have hkept : [e].filter (fun e => (normalize? e.1).isSome) = [e] := by simp [h]
      rw [hkept, ofList_concat, ih]

theorem entries_of_not_isDir {t : Tree} {d : ProjectPath} (h : ¬t.isDir d = true) :
    t.view.entries d = [] := by
  simp only [view, h, Bool.false_eq_true, if_false]

theorem entries_of_isDir {t : Tree} {d : ProjectPath} (h : t.isDir d = true) :
    t.view.entries d =
      ((Ascending.ofList ((t.paths ++ t.dirs).filter (!·.isRoot))).filter (·.parent = d)).map
        fun p => ⟨p.fileName, t.isDir p⟩ := by
  simp only [view, h, if_true, listing, paths, List.filter_map, List.map_map]
  rfl

namespace WellFormed

variable {t : Tree} (ht : t.WellFormed)
include ht

/-- No name is listed twice, not even that of a file that is also a directory. -/
theorem entries_sorted (d : ProjectPath) : (t.view.entries d).Pairwise (·.name < ·.name) := by
  by_cases hdir : t.isDir d = true
  · rw [entries_of_isDir hdir, List.pairwise_map]
    refine List.Pairwise.imp_of_mem ?_ ((Ascending.ofList_sorted _).filter _)
    have hjoin (p : ProjectPath) (hp : p ∈ (Ascending.ofList
        ((t.paths ++ t.dirs).filter (!·.isRoot))).filter (·.parent = d)) :
        d.join p.fileName = p := by
      simp only [List.mem_filter, Ascending.mem_ofList, List.mem_append, Bool.not_eq_true',
        ← Bool.not_eq_true, isRoot_iff, decide_eq_true_eq] at hp
      obtain ⟨⟨hmem, hroot⟩, rfl⟩ := hp
      rw [← isFile_iff, ← isDir_iff] at hmem
      have hcanon : p.Canonical := hmem.elim ht.canonical_of_isFile ht.canonical_of_isDir
      exact (hcanon.join_fileName hroot).2
    intro p q hp hq hlt
    rwa [← hjoin p hp, ← hjoin q hq, join_lt_join_iff] at hlt
  · rw [entries_of_not_isDir hdir]
    exact List.Pairwise.nil

end WellFormed

/-- Each path that an entry puts a file at is a file with the text that was put there last. What is
a directory is the parent of a file, or lies above one. A directory lists, in ascending order, the
names that lead to a file or a directory in it, and tells which lead to a directory. -/
theorem ofList_exact (entries : List (String × String)) :
    (∀ p, (ofList entries).view.isFile p = true ↔ ∃ e ∈ entries, normalize? e.1 = some p) ∧
    (∀ p, (ofList entries).view.text? p =
      (entries.reverse.find? fun e => normalize? e.1 = some p).map (·.2)) ∧
    (∀ d, (ofList entries).view.isDir d = true ↔
      ∃ p k, (ofList entries).view.isFile p = true ∧ d = parent^[k + 1] p) ∧
    (∀ d, ((ofList entries).view.entries d).Pairwise (·.name < ·.name) ∧
      (∀ e, e ∈ (ofList entries).view.entries d ↔
        (e.name ≠ "" ∧ '/' ∉ e.name.toList) ∧
        ((ofList entries).view.isFile (d.join e.name) = true ∨
          (ofList entries).view.isDir (d.join e.name) = true) ∧
        e.isDir = (ofList entries).view.isDir (d.join e.name)) ∧
      ((ofList entries).view.isDir d = false → (ofList entries).view.entries d = [])) ∧
    ofList (entries.filter fun e => (normalize? e.1).isSome) = ofList entries := by
  have ht := wellFormed_ofList entries
  refine ⟨isFile_ofList entries, text?_ofList entries, ht.isDir_iff_above, fun d => ?_,
    ofList_filter entries⟩
  exact ⟨ht.entries_sorted d, ht.mem_entries_iff d,
    fun hd => entries_of_not_isDir (Bool.eq_false_iff.mp hd)⟩

end Tree
end TreeLint
