import Mathlib.Data.List.Induction
import Mathlib.Data.String.Basic
import TreeLint.Config.Merged
import TreeLint.Proofs.Ascending

/-!
What documents say together. A rule stands where its id was declared first, and is what it was
declared as last. Anything else is what the last document makes of it that says something about it.
-/
namespace TreeLint

/-- What a document says about a tool. -/
def Document.tool? (d : Document) (key : String) : Option Value :=
  Ascending.find? key (d.tools.getD []).reverse

/-- What a document says about an integration. -/
def Document.integration? (d : Document) (key : String) : Option Value :=
  Ascending.find? key (d.integrations.getD []).reverse

namespace Merged

/-- All rules of some documents, in the order in which they are declared. -/
def declared (documents : List (Document × String)) : List OriginRule :=
  documents.flatMap fun (d, origin) => d.customRules.map (⟨·, origin⟩)

/-- The rules without an id, and those whose id no rule before them has. -/
def firstDeclared (declared : List OriginRule) : List OriginRule :=
  (declared.zipIdx.filter fun (r, i) =>
    r.rule.id = "" || (declared.take i).all (·.rule.id ≠ r.rule.id)).map (·.1)

/-- The last rule with the id of `r`. A rule without an id stands for itself. -/
def lastDeclared (declared : List OriginRule) (r : OriginRule) : OriginRule :=
  if r.rule.id = "" then r else (declared.reverse.find? (·.rule.id = r.rule.id)).getD r

/-- No two rules have the same id, unless they have none. -/
def DistinctIds (rules : List OriginRule) : Prop :=
  rules.Pairwise fun a b => a.rule.id = b.rule.id → a.rule.id = ""

section PutRule

variable {new : OriginRule} {rules : List OriginRule}

theorem putRule_of_new (h : new.rule.id = "" ∨ ∀ old ∈ rules, old.rule.id ≠ new.rule.id) :
    putRule new rules = rules ++ [new] := by
  induction rules with
  | nil => rfl
  | cons old rest ih =>
    have hold : ¬(new.rule.id ≠ "" ∧ old.rule.id = new.rule.id) := by
      rintro ⟨hid, heq⟩
      exact (h.resolve_left hid) old (by simp) heq
    rw [putRule, if_neg hold, ih (h.imp_right fun h r hr => h r (by simp [hr])),
      List.cons_append]

/-- Where the id is known, only the rule that has it changes. -/
theorem putRule_of_known (hid : new.rule.id ≠ "") (hrules : DistinctIds rules)
    (hknown : ∃ old ∈ rules, old.rule.id = new.rule.id) :
    putRule new rules = rules.map fun old => if old.rule.id = new.rule.id then new else old := by
  induction rules with
  | nil => simp at hknown
  | cons old rest ih =>
    obtain ⟨hold, hrest⟩ := List.pairwise_cons.mp hrules
    by_cases heq : old.rule.id = new.rule.id
    · have hother : ∀ r ∈ rest, (if r.rule.id = new.rule.id then new else r) = r := by
        intro r hr
        rw [if_neg]
        intro hsame
        exact hid (heq ▸ hold r hr (heq.trans hsame.symm))
      rw [putRule, if_pos ⟨hid, heq⟩, List.map_cons, if_pos heq, List.map_congr_left hother,
        List.map_id']
    · have hlater : ∃ r ∈ rest, r.rule.id = new.rule.id := by
        simpa [heq] using hknown
      rw [putRule, if_neg fun h => heq h.2, List.map_cons, if_neg heq, ih hrest hlater]

end PutRule

section Rules

variable (rules : List OriginRule) (new : OriginRule)

theorem firstDeclared_concat : firstDeclared (rules ++ [new]) = firstDeclared rules ++
    if new.rule.id = "" ∨ ∀ old ∈ rules, old.rule.id ≠ new.rule.id then [new] else [] := by
  have hbefore : ∀ x ∈ rules.zipIdx, (rules ++ [new]).take x.2 = rules.take x.2 := by
    intro x hx
    exact List.take_append_of_le_length (List.snd_lt_of_mem_zipIdx hx).le
  rw [firstDeclared, List.zipIdx_append, List.filter_append, List.map_append]
  congr 1
  · rw [firstDeclared]
    congr 1
    exact List.filter_congr fun ⟨r, i⟩ hx => by simp only [hbefore (r, i) hx]
  · by_cases h : new.rule.id = "" ∨ ∀ old ∈ rules, old.rule.id ≠ new.rule.id
    · rw [if_pos h]
      simp [h]
    · rw [if_neg h]
      simp [h]

theorem mem_of_mem_firstDeclared {r : OriginRule} (h : r ∈ firstDeclared rules) : r ∈ rules := by
  obtain ⟨x, hx, rfl⟩ := List.mem_map.mp h
  exact List.fst_mem_of_mem_zipIdx (List.mem_of_mem_filter hx)

theorem exists_firstDeclared {r : OriginRule} (h : r ∈ rules) :
    ∃ first ∈ firstDeclared rules, first.rule.id = r.rule.id := by
  induction rules using List.reverseRecOn generalizing r with
  | nil => simp at h
  | append_singleton rules new ih =>
    rw [firstDeclared_concat]
    rcases List.mem_append.mp h with h | h
    · obtain ⟨first, hfirst, hid⟩ := ih h
      exact ⟨first, List.mem_append_left _ hfirst, hid⟩
    · obtain rfl := List.mem_singleton.mp h
      by_cases hnew : r.rule.id = "" ∨ ∀ old ∈ rules, old.rule.id ≠ r.rule.id
      · exact ⟨r, by simp [hnew], rfl⟩
      · obtain ⟨old, hold, hid⟩ : ∃ old ∈ rules, old.rule.id = r.rule.id := by
          simpa using (not_or.mp hnew).2
        obtain ⟨first, hfirst, hsame⟩ := ih hold
        exact ⟨first, List.mem_append_left _ hfirst, hsame.trans hid⟩

theorem distinctIds_firstDeclared : DistinctIds (firstDeclared rules) := by
  induction rules using List.reverseRecOn with
  | nil => exact List.Pairwise.nil
  | append_singleton rules new ih =>
    rw [firstDeclared_concat]
    split_ifs with hnew
    · refine List.pairwise_append.mpr ⟨ih, List.pairwise_singleton _ _, ?_⟩
      intro a ha b hb hid
      obtain rfl := List.mem_singleton.mp hb
      rcases hnew with hempty | hother
      · exact hid.trans hempty
      · exact absurd hid (hother a (mem_of_mem_firstDeclared rules ha))
    · simpa using ih

theorem lastDeclared_id (r : OriginRule) : (lastDeclared rules r).rule.id = r.rule.id := by
  unfold lastDeclared
  split_ifs with hempty
  · rfl
  · cases h : rules.reverse.find? (·.rule.id = r.rule.id) with
    | none => rfl
    | some last => simpa using List.find?_some h

theorem distinctIds_map_lastDeclared :
    DistinctIds ((firstDeclared rules).map (lastDeclared rules)) := by
  refine List.pairwise_map.mpr ((distinctIds_firstDeclared rules).imp fun h => ?_)
  simpa only [lastDeclared_id] using h

theorem lastDeclared_concat (r : OriginRule) : lastDeclared (rules ++ [new]) r =
    if r.rule.id ≠ "" ∧ r.rule.id = new.rule.id then new else lastDeclared rules r := by
  unfold lastDeclared
  rw [List.reverse_append, List.reverse_singleton, List.singleton_append, List.find?_cons]
  by_cases hid : r.rule.id = new.rule.id
  · simp only [hid, decide_true, Option.getD_some, and_true]
    by_cases hempty : new.rule.id = ""
    · simp [hempty]
    · simp [hempty]
  · have hid' : ¬new.rule.id = r.rule.id := fun h => hid h.symm
    simp [hid, hid']

/-- Putting rules one after the other leaves each id where it stood first, with what stood last. -/
theorem foldl_putRule : rules.foldl (fun kept r => putRule r kept) [] =
    (firstDeclared rules).map (lastDeclared rules) := by
  induction rules using List.reverseRecOn with
  | nil => rfl
  | append_singleton rules new ih =>
    rw [List.foldl_append, List.foldl_cons, List.foldl_nil, ih, firstDeclared_concat]
    -- a rule with a new id goes last, and one with a known id only changes what stands there
    by_cases hnew : new.rule.id = "" ∨ ∀ old ∈ rules, old.rule.id ≠ new.rule.id
    · have hkept : ∀ r ∈ firstDeclared rules,
          lastDeclared (rules ++ [new]) r = lastDeclared rules r := by
        intro r hr
        rw [lastDeclared_concat, if_neg]
        rintro ⟨hid, heq⟩
        rcases hnew with hempty | hother
        · exact hid (heq.trans hempty)
        · exact hother r (mem_of_mem_firstDeclared rules hr) heq
      have hlast : lastDeclared (rules ++ [new]) new = new := by
        rw [lastDeclared_concat]
        split_ifs with hid
        · rfl
        · simp [lastDeclared, show new.rule.id = "" by simpa using hid]
      rw [if_pos hnew, List.map_append, List.map_singleton, hlast, List.map_congr_left hkept]
      refine putRule_of_new (hnew.imp_right fun hother r hr => ?_)
      obtain ⟨first, hfirst, rfl⟩ := List.mem_map.mp hr
      rw [lastDeclared_id]
      exact hother first (mem_of_mem_firstDeclared rules hfirst)
    · obtain ⟨hid, hknown⟩ := not_or.mp hnew
      obtain ⟨old, hold, hsame⟩ : ∃ old ∈ rules, old.rule.id = new.rule.id := by simpa using hknown
      obtain ⟨first, hfirst, hfirstid⟩ := exists_firstDeclared rules hold
      rw [if_neg hnew, List.append_nil, putRule_of_known hid]
      · rw [List.map_map]
        refine List.map_congr_left fun r hr => ?_
        rw [Function.comp_apply, lastDeclared_id, lastDeclared_concat]
        by_cases heq : r.rule.id = new.rule.id
        · rw [if_pos heq, if_pos ⟨heq ▸ hid, heq⟩]
        · rw [if_neg heq, if_neg fun h => heq h.2]
      · exact distinctIds_map_lastDeclared rules
      · exact ⟨_, List.mem_map_of_mem hfirst, by rw [lastDeclared_id, hfirstid, hsame]⟩

theorem filter_id_of_distinct {rules : List OriginRule} {r : OriginRule}
    (hrules : DistinctIds rules) (hmem : r ∈ rules) (hid : r.rule.id ≠ "") :
    rules.filter (·.rule.id = r.rule.id) = [r] := by
  obtain ⟨before, after, rfl⟩ := List.append_of_mem hmem
  obtain ⟨-, hafter, hbefore⟩ := List.pairwise_append.mp hrules
  have hnone : ∀ s ∈ before, ¬s.rule.id = r.rule.id :=
    fun s hs heq => hid (heq ▸ hbefore s hs r (by simp) heq)
  have hnone' : ∀ s ∈ after, ¬s.rule.id = r.rule.id :=
    fun s hs heq => hid ((List.pairwise_cons.mp hafter).1 s hs heq.symm)
  rw [List.filter_append, List.filter_cons_of_pos (by simp),
    List.filter_eq_nil_iff.mpr (by simpa using hnone),
    List.filter_eq_nil_iff.mpr (by simpa using hnone')]
  rfl

/-- Of the rules with some id, the one that is declared last is left. -/
theorem filter_id_lastDeclared {id : String} (hid : id ≠ "") :
    ((firstDeclared rules).map (lastDeclared rules)).filter (·.rule.id = id) =
      (rules.reverse.find? (·.rule.id = id)).toList := by
  cases hlast : rules.reverse.find? (·.rule.id = id) with
  | none =>
    refine List.filter_eq_nil_iff.mpr fun r hr => ?_
    obtain ⟨first, hfirst, rfl⟩ := List.mem_map.mp hr
    rw [lastDeclared_id]
    exact List.find?_eq_none.mp hlast first
      (List.mem_reverse.mpr (mem_of_mem_firstDeclared rules hfirst))
  | some last =>
    have hlastid : last.rule.id = id := by simpa using List.find?_some hlast
    obtain ⟨first, hfirst, hfirstid⟩ :=
      exists_firstDeclared rules (List.mem_reverse.mp (List.mem_of_find?_eq_some hlast))
    rw [hlastid] at hfirstid
    subst hfirstid
    have hkept : lastDeclared rules first = last := by
      rw [lastDeclared, if_neg hid, hlast, Option.getD_some]
    have hfilter : (firstDeclared rules).filter (·.rule.id = first.rule.id) = [first] :=
      filter_id_of_distinct (distinctIds_firstDeclared rules) hfirst hid
    rw [List.filter_map]
    simp only [Function.comp_def, lastDeclared_id]
    rw [hfilter, List.map_singleton, hkept, Option.toList_some]

end Rules

section Tables

variable (entries table : List (String × Value))

theorem find?_putAll (key : String) : Ascending.find? key (putAll entries table) =
    (Ascending.find? key entries.reverse).or (Ascending.find? key table) :=
  Ascending.find?_foldl_put key entries table

theorem putAll_sorted (h : (table.map (·.1)).Pairwise (· < ·)) :
    ((putAll entries table).map (·.1)).Pairwise (· < ·) :=
  Ascending.foldl_put_sorted entries h

end Tables

section Documents

variable (documents : List (Document × String)) (m : Merged)

/-- Of all that documents say about something, what is said last stands. -/
theorem foldl_apply_said {β : Type} (said : Document × String → Option β)
    (kept : Merged → Option β) (h : ∀ m d, kept (m.apply d.1 d.2) = (said d).or (kept m)) :
    kept (documents.foldl (fun (m : Merged) (d, origin) => m.apply d origin) m) =
      (documents.reverse.findSome? said).or (kept m) := by
  induction documents using List.reverseRecOn with
  | nil => rfl
  | append_singleton documents d ih =>
    rw [List.foldl_append, List.foldl_cons, List.foldl_nil, List.reverse_append,
      List.reverse_singleton, List.singleton_append, List.findSome?_cons, h, ih]
    cases said d <;> rfl

theorem foldl_apply_getD {β : Type} (said : Document × String → Option β) (kept : Merged → β)
    (h : ∀ m d, kept (m.apply d.1 d.2) = (said d).getD (kept m)) :
    kept (documents.foldl (fun (m : Merged) (d, origin) => m.apply d origin) m) =
      (documents.reverse.findSome? said).getD (kept m) := by
  have hsome := foldl_apply_said documents m said (fun m => some (kept m)) fun m d => by
    rw [h, Option.or_some]
  rw [Option.or_some] at hsome
  exact Option.some.inj hsome

theorem foldl_apply_rules :
    (documents.foldl (fun (m : Merged) (d, origin) => m.apply d origin) m).rules =
      (declared documents).foldl (fun kept r => putRule r kept) m.rules := by
  induction documents generalizing m with
  | nil => rfl
  | cons d documents ih =>
    rw [List.foldl_cons, ih, declared, declared, List.flatMap_cons, List.foldl_append,
      List.foldl_map]
    rfl

theorem foldl_apply_sorted (htools : (m.tools.map (·.1)).Pairwise (· < ·))
    (hintegrations : (m.integrations.map (·.1)).Pairwise (· < ·)) :
    let merged := documents.foldl (fun (m : Merged) (d, origin) => m.apply d origin) m
    (merged.tools.map (·.1)).Pairwise (· < ·) ∧
      (merged.integrations.map (·.1)).Pairwise (· < ·) := by
  induction documents generalizing m with
  | nil => exact ⟨htools, hintegrations⟩
  | cons d documents ih =>
    exact ih _ (putAll_sorted _ _ htools) (putAll_sorted _ _ hintegrations)

theorem ofDocuments_rules : (ofDocuments documents).rules =
    ((firstDeclared (declared documents)).map (lastDeclared (declared documents))).filter
      fun r => !r.rule.disabled := by
  rw [← foldl_putRule]
  exact congrArg _ (foldl_apply_rules documents {})

theorem distinctIds_ofDocuments : DistinctIds (ofDocuments documents).rules := by
  rw [ofDocuments_rules]
  exact (distinctIds_map_lastDeclared _).filter _

variable {documents} in
theorem enabled_of_mem_ofDocuments {r : OriginRule} (h : r ∈ (ofDocuments documents).rules) :
    r.rule.disabled = false := by
  simpa using (List.mem_filter.mp h).2

/-- The last rule with some id stands in the last document that declares one. -/
theorem find?_declared (id : String) : (declared documents).reverse.find? (·.rule.id = id) =
    documents.reverse.findSome? fun d =>
      (d.1.customRules.reverse.find? (·.id = id)).map (⟨·, d.2⟩) := by
  rw [declared, List.reverse_flatMap, List.find?_flatMap]
  congr 1
  funext d
  rw [Function.comp_apply, ← List.map_reverse, List.find?_map]
  rfl

/-- Which rule a configuration has for an id, if it has one. -/
theorem filter_id_ofDocuments {id : String} (hid : id ≠ "") :
    (ofDocuments documents).rules.filter (·.rule.id = id) =
      ((documents.reverse.findSome? fun d =>
        (d.1.customRules.reverse.find? (·.id = id)).map (OriginRule.mk · d.2)).filter
          fun r => !r.rule.disabled).toList := by
  rw [ofDocuments_rules, List.filter_filter]
  simp only [Bool.and_comm (decide _)]
  rw [← List.filter_filter, filter_id_lastDeclared _ hid, find?_declared]
  cases documents.reverse.findSome? _ with
  | none => rfl
  | some r => cases hdisabled : r.rule.disabled <;> simp [Option.filter_some, hdisabled]

theorem ofDocuments_version :
    (ofDocuments documents).version = (documents.reverse.findSome? (·.1.version)).getD 0 :=
  foldl_apply_getD documents {} (·.1.version) version fun _ _ => rfl

theorem ofDocuments_included :
    (ofDocuments documents).included = (documents.reverse.findSome? (·.1.included)).getD [] :=
  foldl_apply_getD documents {} (·.1.included) included fun _ _ => rfl

theorem ofDocuments_excluded :
    (ofDocuments documents).excluded = (documents.reverse.findSome? (·.1.excluded)).getD [] :=
  foldl_apply_getD documents {} (·.1.excluded) excluded fun _ _ => rfl

theorem find?_ofDocuments_tools (key : String) :
    Ascending.find? key (ofDocuments documents).tools =
      documents.reverse.findSome? (·.1.tool? key) :=
  (foldl_apply_said documents {} (·.1.tool? key) (fun m => Ascending.find? key m.tools)
    fun _ _ => find?_putAll _ _ key).trans Option.or_none

theorem find?_ofDocuments_integrations (key : String) :
    Ascending.find? key (ofDocuments documents).integrations =
      documents.reverse.findSome? (·.1.integration? key) :=
  (foldl_apply_said documents {} (·.1.integration? key) (fun m => Ascending.find? key m.integrations)
    fun _ _ => find?_putAll _ _ key).trans Option.or_none

end Documents

/-- What documents say together: each rule that is not disabled in the end stands where its id was
declared first and is what it was declared as last, and what is said last of anything else stands. -/
theorem ofDocuments_spec (documents : List (Document × String)) :
    (ofDocuments documents).rules =
      ((firstDeclared (declared documents)).map (lastDeclared (declared documents))).filter
        (fun r => !r.rule.disabled) ∧
    (ofDocuments documents).version = (documents.reverse.findSome? (·.1.version)).getD 0 ∧
    (ofDocuments documents).included = (documents.reverse.findSome? (·.1.included)).getD [] ∧
    (ofDocuments documents).excluded = (documents.reverse.findSome? (·.1.excluded)).getD [] ∧
    (∀ key, Ascending.find? key (ofDocuments documents).tools =
      documents.reverse.findSome? (·.1.tool? key)) ∧
    (∀ key, Ascending.find? key (ofDocuments documents).integrations =
      documents.reverse.findSome? (·.1.integration? key)) ∧
    ((ofDocuments documents).tools.map (·.1)).Pairwise (· < ·) ∧
    ((ofDocuments documents).integrations.map (·.1)).Pairwise (· < ·) := by
  obtain ⟨htools, hintegrations⟩ :=
    foldl_apply_sorted documents {} List.Pairwise.nil List.Pairwise.nil
  exact ⟨ofDocuments_rules documents, ofDocuments_version documents,
    ofDocuments_included documents, ofDocuments_excluded documents,
    find?_ofDocuments_tools documents, find?_ofDocuments_integrations documents,
    htools, hintegrations⟩

end Merged
end TreeLint
