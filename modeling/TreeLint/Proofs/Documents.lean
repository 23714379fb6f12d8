import TreeLint.Proofs.Values

/-!
Documents written as values. What a document leaves out is left out of its value, and the members of
a rule that have no meaning of their own stand beside the others. A document that was read from a
text is read back from its value as it is. Numbers that are not finite are read in no member with a
meaning of its own.
-/
namespace TreeLint

namespace Ascending

/-- The entries of those keys that have a value. -/
def present {α β : Type} (slots : List (α × Option β)) : List (α × β) :=
  slots.flatMap fun slot => slot.2.toList.map (slot.1, ·)

section Present

variable {α β : Type} {slots : List (α × Option β)}

theorem present_nil : present ([] : List (α × Option β)) = [] := rfl

variable (key : α) (slots)

theorem present_cons_some (value : β) :
    present ((key, some value) :: slots) = (key, value) :: present slots := rfl

theorem present_cons_map {γ : Type} (x? : Option γ) (f : γ → β) :
    present ((key, x?.map f) :: slots) = (x?.toList.map fun x => (key, f x)) ++ present slots := by
  cases x? <;> rfl

theorem present_cons_ite (c : Prop) [Decidable c] (value : β) :
    present ((key, if c then none else some value) :: slots) =
      (if c then [] else [(key, value)]) ++ present slots := by
  split_ifs <;> rfl

variable {slots}

theorem mem_present {entry : α × β} :
    entry ∈ present slots ↔ (entry.1, some entry.2) ∈ slots := by
  simp only [present, List.mem_flatMap, List.mem_map, Option.mem_toList, Prod.exists]
  constructor
  · rintro ⟨key, value, hslot, v, rfl, rfl⟩
    exact hslot
  · exact fun hslot => ⟨_, _, hslot, _, rfl, rfl⟩

theorem keys_present_sublist : ((present slots).map (·.1)).Sublist (slots.map (·.1)) := by
  induction slots with
  | nil => exact List.Sublist.slnil
  | cons slot slots ih =>
    obtain ⟨key, value⟩ := slot
    cases value with
    | none => exact ih.cons key
    | some v => exact ih.cons_cons key

/-- Among entries under other keys, present entries are found as their slots have them. -/
theorem find?_present_append [DecidableEq α] {others : List (α × β)}
    (hkeys : (slots.map (·.1)).Nodup) (hothers : ∀ entry ∈ others, entry.1 ∉ slots.map (·.1))
    {key : α} {value : Option β} (hslot : (key, value) ∈ slots) :
    find? key (present slots ++ others) = value := by
  have hone {entry : α × β} (hentry : entry ∈ present slots ++ others) (hkey : entry.1 = key) :
      some entry.2 = value := by
    rcases List.mem_append.mp hentry with hentry | hentry
    · have heq := List.inj_on_of_nodup_map hkeys (mem_present.mp hentry) hslot hkey
      exact congrArg Prod.snd heq
    · exact absurd (List.mem_map_of_mem hslot) (hkey ▸ hothers entry hentry)
  cases hfind : find? key (present slots ++ others) with
  | some v => exact hone (mem_of_find? hfind) rfl
  | none =>
    cases value with
    | none => rfl
    | some v =>
      have hmem : (key, v) ∈ present slots ++ others :=
        List.mem_append_left _ (mem_present.mpr hslot)
      have hsome := (find?_isSome key _).mpr (List.mem_map_of_mem hmem)
      rw [hfind] at hsome
      cases hsome

end Present

end Ascending

namespace Record

variable {α β : Type}

/-- An optional member is looked up by its name. -/
theorem build_optional (name : String) (fallback : α) (d : Decode α) (ms : List (String × Value)) :
    (optional name fallback d).build ms =
      match Ascending.find? name ms with
      | some v => d v
      | none => .ok fallback := by
  have hfind : ms.find? (fun m => [name].contains m.1) =
      (Ascending.find? name ms).map (name, ·) := by
    induction ms with
    | nil => rfl
    | cons m ms ih =>
      rw [List.find?_cons, Ascending.find?, ih]
      by_cases hname : name = m.1
      · simp [hname]
      · simp [hname, Ne.symm hname]
  simp only [optional, optionalAs, hfind]
  cases Ascending.find? name ms <;> rfl

/-- A record reads `a` where each of its members, of one name each, is what the slot of that name
holds. -/
structure Reads (r : Record α) (slots : List (String × Option Value)) (a : α) : Prop where
  fields : List.Forall₂
    (fun f slot => f.names = [slot.1] ∧ ∀ v, slot.2 = some v → f.check v = .ok ()) r.fields slots
  build : ∀ ms, (∀ slot ∈ slots, Ascending.find? slot.1 ms = slot.2) → r.build ms = .ok a

theorem reads_some {name : String} {fallback : α} {d : Decode α} {v : Value} {a : α}
    (h : d v = .ok a) : (optional name fallback d).Reads [(name, some v)] a where
  fields := by
    refine .cons ⟨rfl, fun w hw => ?_⟩ .nil
    obtain rfl := Option.some.inj hw
    exact map_ok_iff.mpr ⟨a, h, rfl⟩
  build ms hms := by
    rw [build_optional, hms _ (List.mem_singleton_self _)]
    exact h

theorem reads_none {name : String} {fallback : α} {d : Decode α} :
    (optional name fallback d).Reads [(name, none)] fallback where
  fields := .cons ⟨rfl, nofun⟩ .nil
  build ms hms := by rw [build_optional, hms _ (List.mem_singleton_self _)]

/-- A member that is left out exactly where it would say what its absence says. -/
theorem reads_ite {c : Prop} [Decidable c] {name : String} {fallback : α} {d : Decode α} {v : Value}
    {a : α} (habsent : c → fallback = a) (hpresent : ¬c → d v = .ok a) :
    (optional name fallback d).Reads [(name, if c then none else some v)] a := by
  split_ifs with hc
  · exact habsent hc ▸ reads_none
  · exact reads_some (hpresent hc)

theorem reads_option {name : String} {d : Decode α} {write : α → Value} {a? : Option α}
    (h : ∀ a ∈ a?, write a ≠ .null ∧ d (write a) = .ok a) :
    (optional name none (.option d)).Reads [(name, a?.map write)] a? := by
  cases a? with
  | none => exact reads_none
  | some a =>
    obtain ⟨hnull, ha⟩ := h a rfl
    refine reads_some ?_
    rw [Decode.option]
    · exact map_ok_iff.mpr ⟨a, ha, rfl⟩
    · exact hnull

theorem reads_text? (name : String) (text? : Option String) :
    (optional name none (.option Decode.text)).Reads [(name, text?.map .string)] text? :=
  reads_option fun _ _ => ⟨nofun, rfl⟩

namespace Reads

variable {slots slots' : List (String × Option Value)}

theorem map {r : Record α} {a : α} (h : r.Reads slots a) (f : α → β) :
    (f <$> r).Reads slots (f a) where
  fields := h.fields
  build ms hms := map_ok_iff.mpr ⟨a, h.build ms hms, rfl⟩

theorem seq {r : Record (α → β)} {s : Record α} {f : α → β} {a : α} (hr : r.Reads slots f)
    (hs : s.Reads slots' a) : (r <*> s).Reads (slots ++ slots') (f a) where
  fields := List.rel_append hr.fields hs.fields
  build ms hms := by
    have hf := hr.build ms fun slot h => hms slot (List.mem_append_left _ h)
    have ha := hs.build ms fun slot h => hms slot (List.mem_append_right _ h)
    exact bind_ok_iff.mpr ⟨f, hf, bind_ok_iff.mpr ⟨a, ha, rfl⟩⟩

section Written

variable {r : Record α} {a : α} (h : r.Reads slots a) {others ms : List (String × Value)}
include h

/-- The fields of a record are those that it has slots for, and each takes what its slot holds. -/
theorem field?_cases (key : String) :
    (r.field? key = none ∧ key ∉ slots.map (·.1)) ∨
      ∃ f value, r.field? key = some f ∧ f.name = key ∧ (key, value) ∈ slots ∧
        ∀ v, value = some v → f.check v = .ok () := by
  have hfields := h.fields
  rw [field?]
  generalize r.fields = fields at hfields
  clear h
  induction hfields with
  | nil => simp
  | @cons f slot fields slots hf _ ih =>
    obtain ⟨hnames, hcheck⟩ := hf
    obtain ⟨name, value⟩ := slot
    rw [List.find?_cons, hnames]
    by_cases hkey : key = name
    · subst hkey
      refine .inr ⟨f, value, by simp, ?_, List.mem_cons_self, hcheck⟩
      exact (List.cons.inj hnames).1
    · simpa [hkey, Ne.symm hkey] using ih

theorem field?_isNone (key : String) : (r.field? key).isNone ↔ key ∉ slots.map (·.1) := by
  rcases h.field?_cases key with ⟨hfield, hkey⟩ | ⟨f, value, hfield, -, hslot, -⟩
  · simp only [hfield, Option.isNone_none, true_iff]
    exact hkey
  · simp only [hfield, Option.isNone_some, Bool.false_eq_true, false_iff, not_not]
    exact List.mem_map_of_mem hslot

/-- Members under different keys pass, with members of other names between them. -/
theorem check_ok (hkeys : (ms.map (·.1)).Nodup)
    (hms : ∀ slot ∈ slots, Ascending.find? slot.1 ms = slot.2) : r.check false [] ms = .ok () := by
  suffices hrest : ∀ rest seen, rest ⊆ ms → (rest.map (·.1)).Nodup →
      (∀ m ∈ rest, m.1 ∉ seen) → r.check false seen rest = .ok () from
    hrest ms [] (List.Subset.refl _) hkeys (by simp)
  intro rest
  induction rest with
  | nil => intros; rfl
  | cons m rest ih =>
    intro seen hsub hnodup hseen
    obtain ⟨hfirst, hothers⟩ := List.nodup_cons.mp hnodup
    obtain ⟨hm, hsubrest⟩ := List.cons_subset.mp hsub
    obtain ⟨hnew, hseenrest⟩ := List.forall_mem_cons.mp hseen
    rcases h.field?_cases m.1 with ⟨hfield, -⟩ | ⟨f, value, hfield, hname, hslot, hcheck⟩
    · simp only [check, hfield]
      exact ih seen hsubrest hothers hseenrest
    · have hvalue : value = some m.2 := (hms _ hslot).symm.trans (Ascending.find?_of_mem hkeys hm)
      have hnext : ∀ m' ∈ rest, m'.1 ∉ m.1 :: seen := by
        intro m' hm'
        refine List.not_mem_cons_of_ne_of_not_mem ?_ (hseenrest m' hm')
        exact fun heq => hfirst (List.mem_map.mpr ⟨m', hm', heq⟩)
      simp only [check, hfield, hname, List.contains_eq_mem, hnew, hcheck m.2 hvalue]
      exact ih (m.1 :: seen) hsubrest hothers hnext

section Written

variable (hkeys : (slots.map (·.1)).Nodup) (hsorted : (others.map (·.1)).Pairwise (· < ·))
  (hothers : ∀ m ∈ others, m.1 ∉ slots.map (·.1))
include hkeys hsorted hothers

/-- What is put together from slots and from members of other names is read from its slots, and the
others are left over. -/
theorem decodeOpen_ok (name : String) :
    r.decodeOpen name (.ofMembers (Ascending.present slots ++ others)) = .ok (a, others) := by
  have hnodup : ((Ascending.present slots ++ others).map (·.1)).Nodup := by
    rw [List.map_append]
    refine .append (hkeys.sublist Ascending.keys_present_sublist) (hsorted.imp ne_of_lt) ?_
    intro key hpresent hother
    obtain ⟨m, hm, rfl⟩ := List.mem_map.mp hother
    exact hothers m hm (Ascending.keys_present_sublist.subset hpresent)
  have hfind : ∀ slot ∈ slots, Ascending.find? slot.1
      (Ascending.ofEntries (Ascending.present slots ++ others)) = slot.2 := by
    intro slot hslot
    rw [Ascending.find?_ofEntries hnodup]
    exact Ascending.find?_present_append hkeys hothers hslot
  have hwritten := Ascending.ofEntries_sorted (Ascending.present slots ++ others)
  have hothers' : (Ascending.ofEntries (Ascending.present slots ++ others)).filter
      (fun m => (r.field? m.1).isNone) = others := by
    refine Ascending.table_ext (hwritten.sublist (List.filter_sublist.map _)) hsorted fun m => ?_
    rw [List.mem_filter, Ascending.mem_ofEntries hnodup, List.mem_append, h.field?_isNone]
    refine ⟨?_, fun hm => ⟨.inr hm, hothers m hm⟩⟩
    rintro ⟨hm | hm, hkey⟩
    · exact absurd (Ascending.keys_present_sublist.subset (List.mem_map_of_mem hm)) hkey
    · exact hm
  simp only [Value.ofMembers, decodeOpen, h.check_ok (hwritten.imp ne_of_lt) hfind,
    h.build _ hfind, hothers', bind, Except.bind, pure, Except.pure]

end Written

/-- What is put together from slots is read from them. -/
theorem decode_ok (name : String) (hkeys : (slots.map (·.1)).Nodup) :
    r.decode name false (.ofMembers (Ascending.present slots)) = .ok a := by
  have hnone : ∀ m ∈ ([] : List (String × Value)), m.1 ∉ slots.map (·.1) := by simp
  have hopen := h.decodeOpen_ok hkeys List.Pairwise.nil hnone name
  rw [List.append_nil] at hopen
  obtain ⟨⟨⟩, hcheck, hopen⟩ := bind_ok_iff.mp hopen
  obtain ⟨b, hbuild, hpair⟩ := bind_ok_iff.mp hopen
  obtain ⟨rfl, -⟩ := Prod.mk.inj (Except.ok.inj hpair)
  exact bind_ok_iff.mpr ⟨(), hcheck, hbuild⟩

end Written

end Reads

section Inversion

variable {ms : List (String × Value)}

theorem build_map_iff {r : Record α} {f : α → β} {b : β} :
    (f <$> r).build ms = .ok b ↔ ∃ a, r.build ms = .ok a ∧ f a = b :=
  map_ok_iff

theorem build_seq_iff {r : Record (α → β)} {s : Record α} {b : β} :
    (r <*> s).build ms = .ok b ↔ ∃ f a, r.build ms = .ok f ∧ s.build ms = .ok a ∧ f a = b := by
  refine bind_ok_iff.trans (exists_congr fun f => ?_)
  rw [bind_ok_iff]
  exact ⟨fun ⟨hf, a, ha, hb⟩ => ⟨a, hf, ha, Except.ok.inj hb⟩,
    fun ⟨a, hf, ha, hb⟩ => ⟨hf, a, ha, congrArg Except.ok hb⟩⟩

/-- An optional member says what its absence says, or what a member says. -/
theorem of_build_optional {name : String} {fallback a : α} {d : Decode α}
    (h : (optional name fallback d).build ms = .ok a) : a = fallback ∨ ∃ m ∈ ms, d m.2 = .ok a := by
  rw [build_optional] at h
  cases hfind : Ascending.find? name ms with
  | none =>
    rw [hfind] at h
    exact .inl (Except.ok.inj h).symm
  | some v =>
    rw [hfind] at h
    exact .inr ⟨_, Ascending.mem_of_find? hfind, h⟩

/-- What passes has been looked at, member by member. -/
theorem checked_of_check_ok {r : Record α} {closed : Bool} {seen : List String}
    (h : r.check closed seen ms = .ok ()) {m : String × Value} (hm : m ∈ ms) {f : Field}
    (hf : r.field? m.1 = some f) : f.check m.2 = .ok () := by
  induction ms generalizing seen with
  | nil => cases hm
  | cons first rest ih =>
    rw [check] at h
    split at h
    · next g hg =>
      obtain ⟨-, h⟩ := guard_ok_iff.mp h
      obtain ⟨⟨⟩, hcheck, h⟩ := bind_ok_iff.mp h
      rcases List.mem_cons.mp hm with rfl | hm
      · rwa [← Option.some.inj (hg.symm.trans hf)]
      · exact ih h hm
    · next hnone =>
      split_ifs at h
      rcases List.mem_cons.mp hm with rfl | hm
      · rw [hnone] at hf
        cases hf
      · exact ih h hm

/-- Where no field takes a number that is not finite, no member of a field is one. -/
theorem ne_notFinite_of_check_ok {r : Record α} {name : String}
    (hr : r.fields.all (fun f => !(f.check (.notFinite name)).isOk) = true) {closed : Bool}
    {seen : List String} (h : r.check closed seen ms = .ok ()) {m : String × Value} (hm : m ∈ ms)
    (hkey : (r.field? m.1).isSome) : m.2 ≠ .notFinite name := by
  intro heq
  obtain ⟨f, hf⟩ := Option.isSome_iff_exists.mp hkey
  have hcheck := checked_of_check_ok h hm hf
  have hrejects := List.all_eq_true.mp hr f (List.mem_of_find?_eq_some hf)
  rw [← heq, hcheck] at hrejects
  cases hrejects

theorem mem_of_positional {whole : String} {i : ℕ} {fields : List Field} {items : List Value}
    (h : positional whole i fields items = .ok ms) : ∀ m ∈ ms, m.2 ∈ items := by
  induction fields generalizing i items ms with
  | nil =>
    obtain rfl := Except.ok.inj h
    simp
  | cons f fields ih =>
    cases items with
    | nil =>
      simp only [positional] at h
      split_ifs at h
      exact ih h
    | cons v items =>
      obtain ⟨-, -, h⟩ := bind_ok_iff.mp h
      obtain ⟨rest, hrest, h⟩ := bind_ok_iff.mp h
      obtain rfl := Except.ok.inj h
      exact List.forall_mem_cons.mpr
        ⟨List.mem_cons_self, fun m hm => List.mem_cons_of_mem v (ih hrest m hm)⟩

/-- What is read from an ordered value is built from ordered members. -/
theorem exists_build_of_decode {r : Record α} {name : String} {closed : Bool} {v : Value} {a : α}
    (hv : v.Ordered) (h : r.decode name closed v = .ok a) :
    ∃ ms : List (String × Value), (∀ m ∈ ms, m.2.Ordered) ∧ r.build ms = .ok a := by
  unfold decode at h
  split at h
  · obtain ⟨-, -, hbuild⟩ := bind_ok_iff.mp h
    exact ⟨_, ((Value.ordered_object_iff _).mp hv).2, hbuild⟩
  · obtain ⟨ms, hms, h⟩ := bind_ok_iff.mp h
    have hordered := (Value.ordered_array_iff _).mp hv
    exact ⟨ms, fun m hm => hordered m.2 (mem_of_positional hms m hm), (guard_ok_iff.mp h).2⟩
  · cases h

end Inversion

end Record

namespace Decode

theorem list_map {α : Type} {d : Decode α} {write : α → Value} {xs : List α}
    (h : ∀ x ∈ xs, d (write x) = .ok x) : list d (.array (xs.map write)) = .ok xs := by
  rw [list, mapM_ok_iff, List.forall₂_map_left_iff]
  exact List.forall₂_same.mpr h

theorem list_text_strings (xs : List String) : list text (.strings xs) = .ok xs :=
  list_map fun _ _ => rfl

theorem of_list {α : Type} {d : Decode α} {v : Value} {xs : List α} (hv : v.Ordered)
    (h : list d v = .ok xs) : ∀ x ∈ xs, ∃ item : Value, item.Ordered ∧ d item = .ok x := by
  intro x hx
  unfold list at h
  split at h
  · obtain ⟨item, hitem, hd⟩ := mem_of_mapM_ok h hx
    exact ⟨item, (Value.ordered_array_iff _).mp hv item hitem, hd⟩
  · cases h

theorem of_option {α : Type} {d : Decode α} {v : Value} {a : α} (h : option d v = .ok (some a)) :
    d v = .ok a := by
  unfold option at h
  split at h
  · cases h
  · obtain ⟨b, hb, hsome⟩ := map_ok_iff.mp h
    rwa [← Option.some.inj hsome]

theorem plain_of_members {v : Value} {ms : List (String × Value)} (h : members v = .ok ms) :
    Value.plainMembers ms = ms := by
  unfold members at h
  split at h
  · obtain rfl := Except.ok.inj h
    exact Value.plainMembers_plainMembers _
  · cases h

theorem lt_of_natBelow {limit : ℕ} {typeName : String} {v : Value} {n : ℕ}
    (h : natBelow limit typeName v = .ok n) : n < limit := by
  unfold natBelow at h
  split at h
  · split_ifs at h with hbounds
    obtain rfl := Except.ok.inj h
    omega
  · cases h

end Decode

namespace RuleDocument

/-- The options of a rule are plain, and stand in order and under other names than its own. -/
structure Canonical (r : RuleDocument) : Prop where
  plain : Value.plainMembers r.options = r.options
  sorted : (r.options.map (·.1)).Pairwise (· < ·)
  apart : ∀ m ∈ r.options, (record.field? m.1).isNone

/-- What a rule is written with under each name of its own. -/
def slots (r : RuleDocument) : List (String × Option Value) :=
  [("id", some (.string r.id)),
    ("kind", if r.kind = "" then none else some (.string r.kind)),
    ("severity", r.severity.map .string),
    ("exclude", if r.exclude = [] then none else some (.strings r.exclude)),
    ("disabled", if r.disabled = false then none else some (.bool true)),
    ("message", r.message.map .string)]

theorem keys_slots (r : RuleDocument) :
    r.slots.map (·.1) = ["id", "kind", "severity", "exclude", "disabled", "message"] := rfl

theorem members_eq (r : RuleDocument) : r.members = Ascending.present r.slots ++ r.options := by
  have hdisabled : (if r.disabled then [("disabled", Value.bool true)] else []) =
      if r.disabled = false then [] else [("disabled", .bool true)] := by
    cases r.disabled <;> rfl
  simp only [members, slots, Ascending.present_cons_some, Ascending.present_cons_map,
    Ascending.present_cons_ite, Ascending.present_nil, hdisabled, List.append_assoc,
    List.cons_append, List.nil_append]

theorem reads_slots (r : RuleDocument) : record.Reads r.slots
    (RuleDocument.mk r.id r.kind r.severity r.exclude r.disabled r.message) := by
  have hid : (Record.optional "id" "" Decode.text).Reads [("id", some (.string r.id))] r.id :=
    Record.reads_some rfl
  have hkind : (Record.optional "kind" "" Decode.text).Reads
      [("kind", if r.kind = "" then none else some (.string r.kind))] r.kind :=
    Record.reads_ite Eq.symm fun _ => rfl
  have hexclude : (Record.optional "exclude" [] (.list Decode.text)).Reads
      [("exclude", if r.exclude = [] then none else some (.strings r.exclude))] r.exclude :=
    Record.reads_ite Eq.symm fun _ => Decode.list_text_strings _
  have hdisabled : (Record.optional "disabled" false Decode.bool).Reads
      [("disabled", if r.disabled = false then none else some (.bool true))] r.disabled :=
    Record.reads_ite Eq.symm fun h => congrArg Except.ok (Bool.eq_true_of_not_eq_false h).symm
  have hseverity := Record.reads_text? "severity" r.severity
  have hmessage := Record.reads_text? "message" r.message
  exact (((((hid.map RuleDocument.mk).seq hkind).seq hseverity).seq hexclude).seq hdisabled).seq
    hmessage

theorem decode_toValue {r : RuleDocument} (h : r.Canonical) : decode r.toValue = .ok r := by
  have hreads := r.reads_slots
  have hothers : ∀ m ∈ r.options, m.1 ∉ r.slots.map (·.1) :=
    fun m hm => (hreads.field?_isNone m.1).mp (h.apart m hm)
  have hkeys : (r.slots.map (·.1)).Nodup := by
    rw [keys_slots]
    decide
  rw [decode, toValue, members_eq, hreads.decodeOpen_ok hkeys h.sorted hothers]
  exact congrArg (fun options => Except.ok { r with options }) h.plain

theorem canonical_of_decode {v : Value} {r : RuleDocument} (hv : v.Ordered)
    (h : decode v = .ok r) : r.Canonical := by
  obtain ⟨⟨rule, rest⟩, hopen, hrule⟩ := bind_ok_iff.mp h
  obtain rfl := Except.ok.inj hrule
  unfold Record.decodeOpen at hopen
  split at hopen
  · rename_i ms
    obtain ⟨-, -, hopen⟩ := bind_ok_iff.mp hopen
    obtain ⟨rule', hbuild, hpair⟩ := bind_ok_iff.mp hopen
    obtain ⟨rfl, rfl⟩ := Prod.mk.inj (Except.ok.inj hpair)
    have hoptions : ∀ options, (rule' options).options = options := by
      simp only [record, Record.build_seq_iff, Record.build_map_iff] at hbuild
      obtain ⟨_, _, ⟨_, _, ⟨_, _, ⟨_, _, ⟨_, _, ⟨_, -, rfl⟩, -, rfl⟩, -, rfl⟩, -, rfl⟩, -, rfl⟩, -,
        rfl⟩ := hbuild
      exact fun _ => rfl
    refine ⟨?_, ?_, ?_⟩ <;> rw [hoptions]
    · exact Value.plainMembers_plainMembers _
    · rw [Value.map_fst_plainMembers]
      exact ((Value.ordered_object_iff ms).mp hv).1.sublist (List.filter_sublist.map _)
    · rw [Value.plainMembers_eq, List.forall_mem_map]
      exact fun m hm => (List.mem_filter.mp hm).2
  · cases hopen

/-- A number that is not finite can only be an option of a rule, which has null then. -/
theorem ne_notFinite_of_decode {ms : List (String × Value)} {r : RuleDocument}
    (h : decode (.object ms) = .ok r) {m : String × Value} (hm : m ∈ ms)
    (hkey : (record.field? m.1).isSome) (name : String) : m.2 ≠ .notFinite name := by
  obtain ⟨⟨rule, rest⟩, hopen, -⟩ := bind_ok_iff.mp h
  obtain ⟨_, hcheck, -⟩ := bind_ok_iff.mp hopen
  exact Record.ne_notFinite_of_check_ok rfl hcheck hm hkey

end RuleDocument

namespace Document

/-- The version of a document is in its bounds, the options of its rules are in order, and what it
holds without looking into it is plain. -/
structure Canonical (d : Document) : Prop where
  version_lt : ∀ n ∈ d.version, n < maxVersion
  rules : ∀ r ∈ d.customRules, r.Canonical
  tools : ∀ ms ∈ d.tools, Value.plainMembers ms = ms
  integrations : ∀ ms ∈ d.integrations, Value.plainMembers ms = ms

def rulesSlots (rs : List RuleDocument) : List (String × Option Value) :=
  [("custom", some (.array (rs.map RuleDocument.toValue)))]

def slots (d : Document) : List (String × Option Value) :=
  [("name", d.name.map .string),
    ("description", d.description.map .string),
    ("version", d.version.map fun (n : ℕ) => .int n),
    ("extends", if d.bases = [] then none else some (.strings d.bases)),
    ("rules", d.rules.map fun rs => .object (Ascending.present (rulesSlots rs))),
    ("include", d.included.map .strings),
    ("exclude", d.excluded.map .strings),
    ("tools", d.tools.map .object),
    ("integrations", d.integrations.map .object)]

theorem keys_slots (d : Document) :
    d.slots.map (·.1) = record.fields.map (·.name) := rfl

theorem members_eq (d : Document) : d.members = Ascending.present d.slots := by
  simp only [members, slots, rulesSlots, Ascending.present_cons_some, Ascending.present_cons_map,
    Ascending.present_cons_ite, Ascending.present_nil, List.append_assoc, List.append_nil]

theorem reads_rulesSlots {rs : List RuleDocument} (h : ∀ r ∈ rs, r.Canonical) :
    rulesRecord.Reads (rulesSlots rs) rs := by
  have hrules : Decode.list RuleDocument.decode (.array (rs.map RuleDocument.toValue)) = .ok rs :=
    Decode.list_map fun r hr => RuleDocument.decode_toValue (h r hr)
  exact (Record.reads_some hrules).map id

theorem reads_slots {d : Document} (h : d.Canonical) : record.Reads d.slots d := by
  have hversion : (Record.optional "version" none (.option (.natBelow maxVersion "u32"))).Reads
      [("version", d.version.map fun (n : ℕ) => .int n)] d.version := by
    refine Record.reads_option fun n hn => ⟨nofun, ?_⟩
    have hbounds : (0 : ℤ) ≤ n ∧ (n : ℤ) < maxVersion :=
      ⟨by omega, by exact_mod_cast h.version_lt n hn⟩
    rw [Decode.natBelow, if_pos hbounds, Int.toNat_natCast]
  have hbases : (Record.optional "extends" [] (.list Decode.text)).Reads
      [("extends", if d.bases = [] then none else some (.strings d.bases))] d.bases :=
    Record.reads_ite Eq.symm fun _ => Decode.list_text_strings _
  have hrules : (Record.optional "rules" none
      (.option (rulesRecord.decode "RulesSection" false))).Reads
      [("rules", d.rules.map fun rs => .object (Ascending.present (rulesSlots rs)))] d.rules := by
    refine Record.reads_option fun rs hrs => ⟨nofun, ?_⟩
    have hcanonical : ∀ r ∈ rs, r.Canonical := fun r hr => h.rules r (by rwa [customRules, hrs])
    exact (reads_rulesSlots hcanonical).decode_ok "RulesSection" (List.nodup_singleton _)
  have htexts (name : String) (texts? : Option (List String)) :
      (Record.optional name none (.option (.list Decode.text))).Reads
        [(name, texts?.map .strings)] texts? :=
    Record.reads_option fun _ _ => ⟨nofun, Decode.list_text_strings _⟩
  have hmembers (name : String) (ms? : Option (List (String × Value)))
      (hplain : ∀ ms ∈ ms?, Value.plainMembers ms = ms) :
      (Record.optional name none (.option Decode.members)).Reads [(name, ms?.map .object)] ms? :=
    Record.reads_option fun ms hms => ⟨nofun, congrArg Except.ok (hplain ms hms)⟩
  exact (((((((((Record.reads_text? "name" d.name).map Document.mk).seq
    (Record.reads_text? "description" d.description)).seq hversion).seq hbases).seq hrules).seq
    (htexts "include" d.included)).seq (htexts "exclude" d.excluded)).seq
    (hmembers "tools" d.tools h.tools)).seq (hmembers "integrations" d.integrations h.integrations)

theorem decode_canonical {d : Document} (h : d.Canonical) : decode d.toValue = .ok d := by
  have hkeys : (d.slots.map (·.1)).Nodup := by
    rw [keys_slots]
    decide
  rw [decode, toValue, members_eq]
  exact (reads_slots h).decode_ok _ hkeys

theorem canonical_of_mem_section {v : Value} {rs : List RuleDocument} (hv : v.Ordered)
    (h : rulesRecord.decode "RulesSection" false v = .ok rs) : ∀ r ∈ rs, r.Canonical := by
  obtain ⟨ms, hms, hbuild⟩ := Record.exists_build_of_decode hv h
  obtain ⟨rs', hcustom, rfl⟩ := Record.build_map_iff.mp hbuild
  intro r hr
  rcases Record.of_build_optional hcustom with rfl | ⟨m, hm, hread⟩
  · cases hr
  · obtain ⟨item, hitem, hrule⟩ := Decode.of_list (hms m hm) hread r hr
    exact RuleDocument.canonical_of_decode hitem hrule

theorem canonical_of_decode {v : Value} {d : Document} (hv : v.Ordered) (h : decode v = .ok d) :
    d.Canonical := by
  obtain ⟨ms, hms, hbuild⟩ := Record.exists_build_of_decode hv h
  simp only [record, Record.build_seq_iff, Record.build_map_iff] at hbuild
  obtain ⟨_, integrations, ⟨_, tools, ⟨_, _, ⟨_, _, ⟨_, rules, ⟨_, _, ⟨_, version, ⟨_, _,
    ⟨_, -, rfl⟩, -, rfl⟩, hversion, rfl⟩, -, rfl⟩, hrules, rfl⟩, -, rfl⟩, -, rfl⟩, htools, rfl⟩,
    hintegrations, rfl⟩ := hbuild
  have hplain (name : String) (ms? : Option (List (String × Value)))
      (h : (Record.optional name none (.option Decode.members)).build ms = .ok ms?) :
      ∀ held ∈ ms?, Value.plainMembers held = held := by
    intro held hheld
    obtain rfl : ms? = some held := hheld
    rcases Record.of_build_optional h with hnone | ⟨m, -, hm⟩
    · cases hnone
    · exact Decode.plain_of_members (Decode.of_option hm)
  refine ⟨?_, ?_, hplain "tools" tools htools, hplain "integrations" integrations hintegrations⟩
  · intro n hn
    obtain rfl : version = some n := hn
    rcases Record.of_build_optional hversion with hnone | ⟨m, -, hm⟩
    · cases hnone
    · exact Decode.lt_of_natBelow (Decode.of_option hm)
  · intro r hr
    cases rules with
    | none => simp [customRules] at hr
    | some rs =>
      rcases Record.of_build_optional hrules with hnone | ⟨m, hm, hread⟩
      · cases hnone
      · exact canonical_of_mem_section (hms m hm) (Decode.of_option hread) r hr

theorem ne_notFinite_of_decode {ms : List (String × Value)} {d : Document}
    (h : decode (.object ms) = .ok d) {m : String × Value} (hm : m ∈ ms)
    (hkey : (record.field? m.1).isSome) (name : String) : m.2 ≠ .notFinite name := by
  obtain ⟨_, hcheck, -⟩ := bind_ok_iff.mp h
  exact Record.ne_notFinite_of_check_ok rfl hcheck hm hkey

example : (parse? .toml "version = nan").isNone := by decide +kernel

/-- A tool may have such a number, and has null then. -/
example : (parse? .toml "[tools]\nlimit = nan").map
    (·.tools.map (·.map fun m => (m.1, DecodeError.describe m.2))) =
      some (some [("limit", "null")]) := by
  decide +kernel

/-- **Round trip.** A document that was read from a text is read back from its value as it is: what
is missing stays missing, what is empty stays empty, and each rule keeps its options. -/
theorem decode_toValue_of_parse {format : DocumentFormat} {text : String} {d : Document}
    (h : parse? format text = some d) : decode d.toValue = .ok d := by
  obtain ⟨v, hv, hdecode⟩ := ordered_of_parse? h
  exact decode_canonical (canonical_of_decode hv hdecode)

/-- A list that is there but empty, and a rule with an option of its own. -/
def emptyInclude : String :=
  "\x7b\"include\": [], \"rules\": \x7b\"custom\": [\x7b\"id\": \"r1\", \"files\": \"src\"\x7d]" ++
    "\x7d\x7d"

theorem decode_toValue_of_parse_emptyInclude : ∃ d, parse? .json emptyInclude = some d ∧
    d.included = some [] ∧ d.excluded = none ∧
    d.customRules.map (fun r => (r.id, r.options.map (·.1))) = [("r1", ["files"])] ∧
    decode d.toValue = .ok d := by
  have hvalues : (parse? .json emptyInclude).map (fun d => (d.included, d.excluded,
      d.customRules.map fun r => (r.id, r.options.map (·.1)))) =
        some (some [], none, [("r1", ["files"])]) := by
    decide +kernel
  obtain ⟨d, hparse, hread⟩ := Option.map_eq_some_iff.mp hvalues
  simp only [Prod.mk.injEq] at hread
  obtain ⟨hincluded, hexcluded, hrules⟩ := hread
  exact ⟨d, hparse, hincluded, hexcluded, hrules, decode_toValue_of_parse hparse⟩

end Document
end TreeLint
