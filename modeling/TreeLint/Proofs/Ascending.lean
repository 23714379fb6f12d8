import Mathlib.Data.List.Induction
import Mathlib.Data.List.Sort
import Mathlib.Order.RelClasses
import TreeLint.Ascending

/-!
Ascending lists hold what was put into them, each member once and in order.
-/
namespace TreeLint.Ascending

variable {α β : Type} [LT α] [DecidableLT α] [DecidableEq α]

@[simp] theorem mem_insert (x y : α) (xs : List α) : y ∈ insert x xs ↔ y = x ∨ y ∈ xs := by
  induction xs with
  | nil => simp [insert]
  | cons z zs ih =>
    simp only [insert]
    split_ifs with hlt heq
    · simp
    · subst heq
      simp
    · simp only [List.mem_cons, ih]
      exact or_left_comm

@[simp] theorem mem_ofList (x : α) (xs : List α) : x ∈ ofList xs ↔ x ∈ xs := by
  induction xs with
  | nil => simp [ofList]
  | cons y ys ih => simpa [ofList] using or_congr Iff.rfl ih

theorem mem_foldl_insert (x : α) (xs ys : List α) :
    x ∈ xs.foldl (fun zs z => insert z zs) ys ↔ x ∈ xs ∨ x ∈ ys := by
  induction xs generalizing ys with
  | nil => simp
  | cons z zs ih =>
    rw [List.foldl_cons, ih, mem_insert, List.mem_cons]
    exact ⟨fun h => by tauto, fun h => by tauto⟩

/-- The keys of a table change as an ascending list of keys does. -/
theorem keys_put (key : α) (value : β) (table : List (α × β)) :
    (put key value table).map (·.1) = insert key (table.map (·.1)) := by
  induction table with
  | nil => rfl
  | cons entry rest ih =>
    simp only [put, insert, List.map_cons]
    split_ifs with hlt heq
    · rfl
    · simp [heq]
    · simp [ih]

theorem find?_put (key k : α) (value : β) (table : List (α × β)) :
    find? k (put key value table) = if k = key then some value else find? k table := by
  induction table with
  | nil => rfl
  | cons entry rest ih =>
    obtain ⟨first, v⟩ := entry
    by_cases hlt : key < first
    · rw [put, if_pos hlt, find?]
    · by_cases hfirst : key = first
      · subst hfirst
        rw [put, if_neg hlt, if_pos rfl, find?, find?]
        by_cases hkey : k = key
        · rw [if_pos hkey, if_pos hkey]
        · rw [if_neg hkey, if_neg hkey, if_neg hkey]
      · rw [put, if_neg hlt, if_neg hfirst, find?, find?, ih]
        by_cases hkey : k = first
        · rw [if_pos hkey, if_neg fun h => hfirst (h.symm.trans hkey), if_pos hkey]
        · rw [if_neg hkey, if_neg hkey]

omit [LT α] [DecidableLT α] in
theorem find?_isSome (key : α) (table : List (α × β)) :
    (find? key table).isSome = true ↔ key ∈ table.map (·.1) := by
  induction table with
  | nil => simp [find?]
  | cons entry rest ih =>
    simp only [find?]
    split_ifs with heq
    · simp [heq]
    · simp only [List.map_cons, List.mem_cons, heq, false_or, ih]

omit [LT α] [DecidableLT α] in
theorem mem_of_find? {key : α} {value : β} {table : List (α × β)}
    (h : find? key table = some value) : (key, value) ∈ table := by
  induction table with
  | nil => cases h
  | cons entry rest ih =>
    simp only [find?] at h
    split_ifs at h with heq
    · obtain rfl := Option.some.inj h
      simp [heq]
    · exact List.mem_cons_of_mem _ (ih h)

omit [LT α] [DecidableLT α] in
theorem find?_of_mem {key : α} {value : β} {table : List (α × β)}
    (hkeys : (table.map (·.1)).Nodup) (h : (key, value) ∈ table) : find? key table = some value := by
  induction table with
  | nil => simp at h
  | cons entry rest ih =>
    obtain ⟨hfirst, hrest⟩ := List.nodup_cons.mp hkeys
    rcases List.mem_cons.mp h with rfl | h
    · simp [find?]
    · have hother : key ≠ entry.1 := by
        rintro rfl
        exact hfirst (List.mem_map.mpr ⟨_, h, rfl⟩)
      rw [find?, if_neg hother, ih hrest h]

/-- Of the entries that are put in one after the other, the last one of a key stands. -/
theorem find?_foldl_put (key : α) (entries table : List (α × β)) :
    find? key (entries.foldl (fun table entry => put entry.1 entry.2 table) table) =
      (find? key entries.reverse).or (find? key table) := by
  induction entries using List.reverseRecOn with
  | nil => rfl
  | append_singleton entries entry ih =>
    rw [List.foldl_append, List.foldl_cons, List.foldl_nil, find?_put, List.reverse_append,
      List.reverse_singleton, List.singleton_append, find?]
    split_ifs with hkey
    · rfl
    · exact ih

omit [LT α] [DecidableLT α] in
theorem find?_map_key (key : α) (value : α → β) (keys : List α) :
    find? key (keys.map fun k => (k, value k)) = if key ∈ keys then some (value key) else none := by
  induction keys with
  | nil => rfl
  | cons k keys ih =>
    rw [List.map_cons, find?, ih]
    by_cases heq : k = key
    · simp [heq]
    · simp [Ne.symm heq]

/-- What is taken out of a list under distinct keys, one key after the other, is taken out once. -/
theorem flatMap_filter_perm {ι κ : Type} [DecidableEq κ] (key : ι → κ) (items : List ι)
    {keys : List κ} (h : keys.Nodup) :
    (keys.flatMap fun k => items.filter (key · = k)).Perm (items.filter (key · ∈ keys)) := by
  induction keys with
  | nil => simp
  | cons k keys ih =>
    obtain ⟨hk, hkeys⟩ := List.nodup_cons.mp h
    let both := items.filter (key · ∈ k :: keys)
    have hfirst : both.filter (key · = k) = items.filter (key · = k) := by
      rw [List.filter_filter]
      exact List.filter_congr fun item _ => by simpa using Or.inl
    have hothers : both.filter (fun item => !decide (key item = k)) =
        items.filter (key · ∈ keys) := by
      rw [List.filter_filter]
      refine List.filter_congr fun item _ => ?_
      by_cases hitem : key item = k
      · simp [hitem, hk]
      · simp [hitem]
    rw [List.flatMap_cons, ← hfirst]
    refine (List.Perm.append_left _ (ih hkeys)).trans ?_
    rw [← hothers]
    exact List.filter_append_perm _ both

section Sorted

variable [IsStrictTotalOrder α (· < ·)]

theorem insert_sorted (x : α) (xs : List α) (h : xs.Pairwise (· < ·)) :
    (insert x xs).Pairwise (· < ·) := by
  induction xs with
  | nil => simp [insert]
  | cons y ys ih =>
    rw [List.pairwise_cons] at h
    simp only [insert]
    split_ifs with hlt heq
    · refine List.Pairwise.cons ?_ (List.Pairwise.cons h.1 h.2)
      intro z hz
      rcases List.mem_cons.mp hz with rfl | hz
      · exact hlt
      · exact trans_of (· < ·) hlt (h.1 z hz)
    · exact List.Pairwise.cons h.1 h.2
    · have hyx : y < x := by
        rcases trichotomous_of (α := α) (· < ·) x y with h | h | h
        · exact absurd h hlt
        · exact absurd h heq
        · exact h
      refine List.Pairwise.cons ?_ (ih h.2)
      intro z hz
      rcases (mem_insert x z ys).mp hz with rfl | hz
      · exact hyx
      · exact h.1 z hz

theorem ofList_sorted (xs : List α) : (ofList xs).Pairwise (· < ·) := by
  induction xs with
  | nil => exact List.Pairwise.nil
  | cons y ys ih => exact insert_sorted y (ofList ys) ih

theorem foldl_insert_sorted (xs ys : List α) (h : ys.Pairwise (· < ·)) :
    (xs.foldl (fun zs z => insert z zs) ys).Pairwise (· < ·) := by
  induction xs generalizing ys with
  | nil => exact h
  | cons z zs ih => exact ih (insert z ys) (insert_sorted z ys h)

theorem foldl_put_sorted (entries : List (α × β)) {table : List (α × β)}
    (h : (table.map (·.1)).Pairwise (· < ·)) :
    ((entries.foldl (fun table entry => put entry.1 entry.2 table) table).map (·.1)).Pairwise
      (· < ·) := by
  induction entries generalizing table with
  | nil => exact h
  | cons entry entries ih =>
    refine ih ?_
    rw [keys_put]
    exact insert_sorted _ _ h

theorem ofEntries_sorted (entries : List (α × β)) :
    ((ofEntries entries).map (·.1)).Pairwise (· < ·) :=
  foldl_put_sorted entries List.Pairwise.nil

omit [DecidableLT α] in
theorem mem_iff_find? {table : List (α × β)} (h : (table.map (·.1)).Pairwise (· < ·)) (key : α)
    (value : β) : (key, value) ∈ table ↔ find? key table = some value :=
  ⟨find?_of_mem (h.imp fun hlt => ne_of_irrefl hlt), mem_of_find?⟩

/-- A table holds no other entries than those that it was made from. -/
theorem mem_of_mem_ofEntries {entries : List (α × β)} {entry : α × β}
    (h : entry ∈ ofEntries entries) : entry ∈ entries := by
  have hfind := (mem_iff_find? (ofEntries_sorted entries) entry.1 entry.2).mp h
  rw [ofEntries, find?_foldl_put] at hfind
  exact List.mem_reverse.mp (mem_of_find? (by simpa [find?] using hfind))

/-- Entries under different keys all stand in their table. -/
theorem mem_ofEntries {entries : List (α × β)} (h : (entries.map (·.1)).Nodup) (entry : α × β) :
    entry ∈ ofEntries entries ↔ entry ∈ entries := by
  refine ⟨mem_of_mem_ofEntries, fun hentry => ?_⟩
  have hreverse : (entries.reverse.map (·.1)).Nodup := by
    rw [List.map_reverse]
    exact List.nodup_reverse.mpr h
  refine (mem_iff_find? (ofEntries_sorted entries) entry.1 entry.2).mpr ?_
  rw [ofEntries, find?_foldl_put, find?_of_mem hreverse (List.mem_reverse.mpr hentry)]
  rfl

theorem find?_ofEntries {entries : List (α × β)} (h : (entries.map (·.1)).Nodup) (key : α) :
    find? key (ofEntries entries) = find? key entries := by
  refine Option.ext fun value => ?_
  rw [← mem_iff_find? (ofEntries_sorted entries), mem_ofEntries h]
  exact ⟨find?_of_mem h, mem_of_find?⟩

omit [DecidableLT α] [DecidableEq α] in
/-- Tables are the same when they hold the same entries. -/
theorem table_ext {table table' : List (α × β)} (h : (table.map (·.1)).Pairwise (· < ·))
    (h' : (table'.map (·.1)).Pairwise (· < ·)) (hmem : ∀ entry, entry ∈ table ↔ entry ∈ table') :
    table = table' := by
  have : Std.Irrefl fun a b : α × β => a.1 < b.1 := ⟨fun a => irrefl_of (· < ·) a.1⟩
  have : Std.Asymm fun a b : α × β => a.1 < b.1 := ⟨fun a b => asymm_of (· < ·)⟩
  exact (List.pairwise_map.mp h).eq_of_mem_iff (List.pairwise_map.mp h') hmem

end Sorted
end TreeLint.Ascending
