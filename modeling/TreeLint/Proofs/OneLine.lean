import TreeLint.Proofs.Template

/-!
Texts without line breaks. Texts that are put together from such texts hold none, and a path shows
nothing but what stands in the text that it was read from. Texts that are put one below the other
have a line each exactly when none holds a line break.
-/
namespace TreeLint

/-- A text without a line break. -/
def OneLine (text : String) : Prop := '\n' ∉ text.toList

instance (text : String) : Decidable (OneLine text) := inferInstanceAs (Decidable (_ ∉ _))

theorem OneLine.of_subset {text part : String} (h : OneLine text)
    (hpart : part.toList ⊆ text.toList) : OneLine part :=
  fun hbreak => h (hpart hbreak)

theorem oneLine_append_iff (a b : String) : OneLine (a ++ b) ↔ OneLine a ∧ OneLine b := by
  simp [OneLine, not_or]

theorem OneLine.append {a b : String} (ha : OneLine a) (hb : OneLine b) : OneLine (a ++ b) :=
  (oneLine_append_iff a b).mpr ⟨ha, hb⟩

theorem OneLine.literal {cs : List Char} (h : '\n' ∉ cs) : OneLine (String.ofList cs) := by
  rwa [OneLine, String.toList_ofList]

theorem OneLine.extend {a text : String} {after : List Char} (ha : OneLine a)
    (h : OneLine text) (hafter : '\n' ∉ after) : OneLine (a ++ text ++ String.ofList after) :=
  (ha.append h).append (literal hafter)

/-- A text put between two others that are written out. -/
theorem OneLine.between {before after : List Char} {text : String} (h : OneLine text)
    (hbefore : '\n' ∉ before) (hafter : '\n' ∉ after) :
    OneLine (String.ofList before ++ text ++ String.ofList after) :=
  (literal hbefore).extend h hafter

theorem oneLine_intercalate_iff {separator : String} (h : OneLine separator)
    (texts : List String) :
    OneLine (separator.intercalate texts) ↔ ∀ text ∈ texts, OneLine text := by
  induction texts with
  | nil => exact iff_of_true (by simp [OneLine]) (by simp)
  | cons text texts ih =>
    cases texts with
    | nil => simp
    | cons next texts =>
      rw [String.intercalate_cons_cons, oneLine_append_iff, oneLine_append_iff, ih,
        List.forall_mem_cons]
      simp [h]

theorem oneLine_toString (n : ℕ) : OneLine (toString n) := by
  intro hbreak
  rw [Nat.toString_eq_repr, Nat.toList_repr] at hbreak
  exact absurd (Nat.isDigit_of_mem_toDigits (by decide) (by decide) hbreak) (by decide)

namespace Line

/-- The lines of a text. -/
def split (text : String) : List String := (text.toList.splitOn '\n').map String.ofList

theorem split_of_oneLine {text : String} (h : OneLine text) : split text = [text] := by
  have hone : ∀ c ∈ text.toList, (c == '\n') = false := by
    intro c hc
    rw [beq_eq_false_iff_ne]
    rintro rfl
    exact h hc
  rw [split, List.splitOn, List.splitOnP_eq_singleton hone]
  simp

theorem length_split (text : String) : (split text).length = text.toList.count '\n' + 1 := by
  rw [split, List.length_map, List.splitOn]
  induction text.toList with
  | nil => rfl
  | cons c cs ih =>
    rw [List.splitOnP_cons_eq_if_modifyHead, List.count_cons]
    split_ifs
    · rw [List.length_cons, ih]
    · rw [List.length_modifyHead, ih]

theorem length_split_append {a : String} (ha : OneLine a) (b : String) :
    (split (a ++ b)).length = (split b).length := by
  rw [length_split, length_split, String.toList_append, List.count_append,
    List.count_eq_zero.mpr ha, Nat.zero_add]

/-- Texts that are put one below the other have the lines of each. -/
theorem split_intercalate {texts : List String} (hne : texts ≠ []) :
    split ("\n".intercalate texts) = texts.flatMap split := by
  induction texts with
  | nil => exact absurd rfl hne
  | cons text texts ih =>
    cases texts with
    | nil => simp
    | cons next texts =>
      rw [List.flatMap_cons, ← ih (by simp), String.intercalate_cons_cons, split, split, split,
        ← List.map_append, String.toList_append, String.toList_append, List.append_assoc]
      exact congrArg _ (List.splitOn_append_cons_self ..)

theorem length_le_flatMap_split (texts : List String) :
    texts.length ≤ (texts.flatMap split).length := by
  induction texts with
  | nil => exact Nat.zero_le _
  | cons text texts ih =>
    rw [List.flatMap_cons, List.length_append, length_split, List.length_cons]
    omega

/-- There are as many lines as texts when no text holds a line break. -/
theorem length_flatMap_split_eq_iff (texts : List String) :
    (texts.flatMap split).length = texts.length ↔ ∀ text ∈ texts, OneLine text := by
  induction texts with
  | nil => simp
  | cons text texts ih =>
    have hle := length_le_flatMap_split texts
    have hone : OneLine text ↔ text.toList.count '\n' = 0 := List.count_eq_zero.symm
    rw [List.forall_mem_cons, ← ih, hone, List.flatMap_cons, List.length_append, length_split,
      List.length_cons]
    omega

theorem flatMap_split_eq_iff (texts : List String) :
    texts.flatMap split = texts ↔ ∀ text ∈ texts, OneLine text := by
  refine ⟨fun h => (length_flatMap_split_eq_iff texts).mp (congrArg List.length h), fun h => ?_⟩
  calc texts.flatMap split = texts.flatMap fun text => [text] :=
        List.flatMap_congr fun text htext => split_of_oneLine (h text htext)
    _ = texts := List.flatMap_singleton' texts

end Line

namespace ProjectPath

theorem splitLast_subset (cs : List Char) :
    (∀ before ∈ (splitLast cs).1, before ⊆ cs) ∧ (splitLast cs).2 ⊆ cs := by
  induction cs with
  | nil => simp [splitLast]
  | cons c rest ih =>
    rw [splitLast]
    rcases hrest : splitLast rest with ⟨before?, after⟩
    rw [hrest] at ih
    cases before? with
    | some before =>
      have hbefore : before ⊆ rest := ih.1 before rfl
      exact ⟨by simpa using List.cons_subset_cons c hbefore, List.subset_cons_of_subset c ih.2⟩
    | none =>
      dsimp only
      split_ifs
      · exact ⟨by simp, List.subset_cons_of_subset c ih.2⟩
      · exact ⟨by simp, List.cons_subset_cons c ih.2⟩

theorem oneLine_parent {p : ProjectPath} (h : OneLine p.text) : OneLine p.parent.text := by
  unfold parent
  split
  · next before hbefore =>
    refine h.of_subset ?_
    rw [String.toList_ofList]
    exact (splitLast_subset _).1 before hbefore
  · decide

theorem oneLine_fileName {p : ProjectPath} (h : OneLine p.text) : OneLine p.fileName := by
  refine h.of_subset ?_
  rw [fileName, String.toList_ofList]
  exact (splitLast_subset _).2

theorem oneLine_display {p : ProjectPath} (h : OneLine p.text) : OneLine p.display := by
  unfold display
  split_ifs
  · decide
  · exact h

theorem oneLine_of_startsWith {p dir : ProjectPath} (h : OneLine p.text)
    (hdir : p.startsWith dir = true) : OneLine dir.text := by
  simp only [startsWith, Bool.or_eq_true, isRoot_iff, decide_eq_true_eq,
    List.isPrefixOf_iff_prefix] at hdir
  rcases hdir with (rfl | rfl) | hbelow
  · decide
  · exact h
  · exact h.of_subset (List.Subset.trans (List.subset_append_left _ _) hbelow.subset)

theorem subset_of_mem_parts {raw part : String} (h : part ∈ parts raw) :
    part.toList ⊆ raw.toList := by
  obtain ⟨cs, hcs, rfl⟩ := List.mem_map.mp h
  rw [String.toList_ofList]
  exact subset_of_mem_splitOnP hcs

theorem subset_of_step? {stack stack' : List String} {part : String}
    (h : step? stack part = some stack') : stack' ⊆ part :: stack := by
  unfold step? at h
  split_ifs at h
  · obtain rfl := Option.some.inj h
    exact List.subset_cons_self ..
  · cases stack with
    | nil => cases h
    | cons top below =>
      obtain rfl := Option.some.inj h
      exact List.subset_cons_of_subset part (List.subset_cons_self ..)
  · obtain rfl := Option.some.inj h
    exact List.Subset.refl _

theorem subset_of_foldlM_step? {segments stack stack' : List String}
    (h : segments.foldlM step? stack = some stack') : stack' ⊆ segments ++ stack := by
  induction segments generalizing stack with
  | nil =>
    obtain rfl : stack = stack' := by simpa using h
    exact List.Subset.refl _
  | cons part segments ih =>
    rw [List.foldlM_cons] at h
    obtain ⟨middle, hstep, hrest⟩ := Option.bind_eq_some_iff.mp h
    intro name hname
    rw [List.cons_append, ← List.singleton_append]
    rcases List.mem_append.mp (ih hrest hname) with hname | hname
    · exact List.mem_append_right _ (List.mem_append_left _ hname)
    · rcases List.mem_cons.mp (subset_of_step? hstep hname) with rfl | hname
      · exact List.mem_append_left _ (List.mem_singleton_self _)
      · exact List.mem_append_right _ (List.mem_append_right _ hname)

theorem oneLine_normalize? {raw : String} {p : ProjectPath} (h : OneLine raw)
    (hp : normalize? raw = some p) : OneLine p.text := by
  obtain ⟨stack, hstack, rfl⟩ := Option.map_eq_some_iff.mp hp
  refine (oneLine_intercalate_iff (by decide) _).mpr fun name hname => ?_
  have hpart := subset_of_foldlM_step? hstack (List.mem_reverse.mp hname)
  rw [List.append_nil] at hpart
  exact h.of_subset (subset_of_mem_parts hpart)

end ProjectPath

namespace PathTemplate

/-- The text between the placeholders of a template. -/
def literals (t : PathTemplate) : List String :=
  t.parts.filterMap fun
    | .text s => some s
    | .hole _ => none

theorem oneLine_valueOf {subject : ProjectPath} (h : OneLine subject.text) (p : Placeholder) :
    OneLine (valueOf subject p) := by
  have hname := ProjectPath.oneLine_fileName h
  cases p with
  | dir => exact ProjectPath.oneLine_parent h
  | name => exact hname
  | stem =>
    refine hname.of_subset ?_
    rw [valueOf, stem, String.toList_ofList]
    exact (List.takeWhile_sublist _).subset
  | ext =>
    refine hname.of_subset ?_
    rw [valueOf, ext, String.toList_ofList]
    exact ((List.drop_sublist _ _).trans (List.dropWhile_sublist _)).subset

theorem oneLine_fill {t : PathTemplate} {subject : ProjectPath} (h : OneLine subject.text)
    (ht : ∀ text ∈ t.literals, OneLine text) : OneLine (t.fill subject) := by
  intro hbreak
  rw [fill, String.toList_join, List.mem_flatMap] at hbreak
  obtain ⟨text, htext, hbreak⟩ := hbreak
  obtain ⟨part, hpart, rfl⟩ := List.mem_map.mp htext
  cases part with
  | text s => exact ht s (List.mem_filterMap.mpr ⟨_, hpart, rfl⟩) hbreak
  | hole p => exact oneLine_valueOf h p hbreak

theorem oneLine_expand? {t : PathTemplate} {subject companion : ProjectPath}
    (h : OneLine subject.text) (ht : ∀ text ∈ t.literals, OneLine text)
    (hexpand : t.expand? subject = some companion) : OneLine companion.text :=
  ProjectPath.oneLine_normalize? (oneLine_fill h ht) (Option.filter_eq_some_iff.mp hexpand).1

end PathTemplate

end TreeLint
