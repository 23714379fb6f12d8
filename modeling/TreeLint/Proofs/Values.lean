import Mathlib.Data.String.Basic
import TreeLint.Config.Document
import TreeLint.Proofs.Ascending
import TreeLint.Proofs.Results

/-!
Values as they are read. Whatever text a value is read from, the members of each object in it stand
in ascending order of their keys, and no key stands twice. Taking the numbers that are not finite out
of a value keeps the keys, and need not be done twice.
-/
namespace TreeLint

namespace Value

mutual

/-- The members of each object in a value have ascending keys. -/
def Ordered : Value → Prop
  | .array items => AllOrdered items
  | .object members => (members.map (·.1)).Pairwise (· < ·) ∧ MembersOrdered members
  | _ => True

def AllOrdered : List Value → Prop
  | [] => True
  | v :: rest => v.Ordered ∧ AllOrdered rest

def MembersOrdered : List (String × Value) → Prop
  | [] => True
  | (_, v) :: rest => v.Ordered ∧ MembersOrdered rest

end

theorem allOrdered_iff (items : List Value) : AllOrdered items ↔ ∀ v ∈ items, v.Ordered := by
  induction items with
  | nil => simp [AllOrdered]
  | cons v items ih => simp [AllOrdered, ih]

theorem membersOrdered_iff (members : List (String × Value)) :
    MembersOrdered members ↔ ∀ m ∈ members, m.2.Ordered := by
  induction members with
  | nil => simp [MembersOrdered]
  | cons m members ih => simp [MembersOrdered, ih]

theorem ordered_array_iff (items : List Value) :
    (Value.array items).Ordered ↔ ∀ v ∈ items, v.Ordered := by
  rw [Ordered, allOrdered_iff]

theorem ordered_object_iff (members : List (String × Value)) :
    (Value.object members).Ordered ↔
      (members.map (·.1)).Pairwise (· < ·) ∧ ∀ m ∈ members, m.2.Ordered := by
  rw [Ordered, membersOrdered_iff]

theorem ordered_ofMembers {members : List (String × Value)} (h : ∀ m ∈ members, m.2.Ordered) :
    (ofMembers members).Ordered := by
  rw [ofMembers, ordered_object_iff]
  exact ⟨Ascending.ofEntries_sorted members, fun m hm => h m (Ascending.mem_of_mem_ofEntries hm)⟩

theorem plainMembers_eq (members : List (String × Value)) :
    plainMembers members = members.map fun m => (m.1, m.2.plain) := by
  induction members with
  | nil => rfl
  | cons m members ih => rw [plainMembers, ih, List.map_cons]

theorem map_fst_plainMembers (members : List (String × Value)) :
    (plainMembers members).map (·.1) = members.map (·.1) := by
  rw [plainMembers_eq, List.map_map]
  rfl

mutual

/-- Plain values are left as they are. -/
theorem plain_plain : ∀ v : Value, v.plain.plain = v.plain
  | .null | .bool _ | .int _ | .float _ | .notFinite _ | .string _ => rfl
  | .array items => congrArg Value.array (plainItems_plainItems items)
  | .object members => congrArg Value.object (plainMembers_plainMembers members)

theorem plainItems_plainItems : ∀ items : List Value,
    plainItems (plainItems items) = plainItems items
  | [] => rfl
  | v :: rest => congrArg₂ List.cons (plain_plain v) (plainItems_plainItems rest)

theorem plainMembers_plainMembers : ∀ members : List (String × Value),
    plainMembers (plainMembers members) = plainMembers members
  | [] => rfl
  | (k, v) :: rest =>
    congrArg₂ List.cons (congrArg (Prod.mk k) (plain_plain v)) (plainMembers_plainMembers rest)

end

end Value

namespace Json

mutual

theorem ordered_of_read? : ∀ (x : Node) {depth : ℕ} {shape : Shape} {v : Value},
    x.read? depth shape = some v → v.Ordered
  | .null, _, _, _, h => by
    obtain rfl := Option.some.inj h
    trivial
  | .bool b, _, _, _, h => by
    obtain rfl := Option.some.inj h
    trivial
  | .number t, _, _, v, h => by
    simp only [Node.read?, NumberText.value?] at h
    split_ifs at h
    · obtain rfl := Option.some.inj h
      trivial
    · obtain rfl := Option.some.inj h
      trivial
    · obtain ⟨x, -, rfl⟩ := Option.map_eq_some_iff.mp h
      trivial
  | .string s, _, _, _, h => by
    obtain ⟨s, -, rfl⟩ := Option.map_eq_some_iff.mp h
    trivial
  | .array items, _, _, _, h => by
    simp only [Node.read?] at h
    split_ifs at h
    obtain ⟨vs, hvs, rfl⟩ := Option.map_eq_some_iff.mp h
    exact (Value.ordered_array_iff vs).mpr (ordered_of_readItems? items hvs)
  | .object members, _, _, _, h => by
    simp only [Node.read?] at h
    split_ifs at h
    obtain ⟨ms, hms, rfl⟩ := Option.map_eq_some_iff.mp h
    exact Value.ordered_ofMembers (ordered_of_readMembers? members hms)

theorem ordered_of_readItems? : ∀ (items : List Node) {depth i : ℕ} {shape : Shape}
    {vs : List Value}, readItems? depth shape i items = some vs → ∀ v ∈ vs, v.Ordered
  | [], _, _, _, _, h => by
    obtain rfl := Option.some.inj h
    simp
  | x :: rest, _, _, _, _, h => by
    obtain ⟨v, hv, h⟩ := Option.bind_eq_some_iff.mp h
    obtain ⟨vs, hvs, h⟩ := Option.bind_eq_some_iff.mp h
    obtain rfl := Option.some.inj h
    exact List.forall_mem_cons.mpr ⟨ordered_of_read? x hv, ordered_of_readItems? rest hvs⟩

theorem ordered_of_readMembers? : ∀ (members : List (Option String × Node)) {depth : ℕ}
    {shape : Shape} {seen : List String} {ms : List (String × Value)},
    readMembers? depth shape seen members = some ms → ∀ m ∈ ms, m.2.Ordered
  | [], _, _, _, _, h => by
    obtain rfl := Option.some.inj h
    simp
  | (none, _) :: _, _, _, _, _, h => by cases h
  | (some key, x) :: rest, _, _, _, _, h => by
    simp only [readMembers?] at h
    split at h
    · exact ordered_of_readMembers? rest h
    · split_ifs at h
      obtain ⟨v, hv, h⟩ := Option.bind_eq_some_iff.mp h
      obtain ⟨ms, hms, h⟩ := Option.bind_eq_some_iff.mp h
      obtain rfl := Option.some.inj h
      exact List.forall_mem_cons.mpr ⟨ordered_of_read? x hv, ordered_of_readMembers? rest hms⟩

end

end Json

namespace Toml

mutual

/-- The values that stand in a table under construction are ordered. -/
def Item.Ordered : Item → Prop
  | .value v => v.Ordered
  | .table _ entries => EntriesOrdered entries
  | .tables reversed => TablesOrdered reversed

def EntriesOrdered : List (String × Item) → Prop
  | [] => True
  | (_, x) :: rest => x.Ordered ∧ EntriesOrdered rest

def TablesOrdered : List (List (String × Item)) → Prop
  | [] => True
  | entries :: rest => EntriesOrdered entries ∧ TablesOrdered rest

end

mutual

theorem Item.Ordered.toValue : ∀ {x : Item}, x.Ordered → x.toValue.Ordered
  | .value _, h => h
  | .table _ _, h => Value.ordered_ofMembers (ordered_membersOf h)
  | .tables reversed, h => by
    rw [Item.toValue, Value.ordered_array_iff]
    exact fun v hv => ordered_objectsOf h v (List.mem_reverse.mp hv)

theorem ordered_membersOf : ∀ {entries : Entries}, EntriesOrdered entries →
    ∀ m ∈ membersOf entries, m.2.Ordered
  | [], _ => by simp [membersOf]
  | (_, _) :: _, h => List.forall_mem_cons.mpr ⟨h.1.toValue, ordered_membersOf h.2⟩

theorem ordered_objectsOf : ∀ {reversed : List Entries}, TablesOrdered reversed →
    ∀ v ∈ objectsOf reversed, v.Ordered
  | [], _ => by simp [objectsOf]
  | _ :: _, h =>
    List.forall_mem_cons.mpr
      ⟨Value.ordered_ofMembers (ordered_membersOf h.1), ordered_objectsOf h.2⟩

end

section Entries

variable {entries result : Entries} {key : String} {x : Item}

theorem ordered_of_find? (h : EntriesOrdered entries) (hx : find? key entries = some x) :
    x.Ordered := by
  induction entries with
  | nil => cases hx
  | cons entry rest ih =>
    simp only [find?] at hx
    split_ifs at hx
    · obtain rfl := Option.some.inj hx
      exact h.1
    · exact ih h.2 hx

theorem ordered_replace (h : EntriesOrdered entries) (hx : x.Ordered) :
    EntriesOrdered (replace key x entries) := by
  induction entries with
  | nil => exact ⟨hx, trivial⟩
  | cons entry rest ih =>
    simp only [replace]
    split_ifs
    · exact ⟨hx, h.2⟩
    · exact ⟨h.1, ih h.2⟩

theorem ordered_remove (h : EntriesOrdered entries) : EntriesOrdered (remove key entries) := by
  induction entries with
  | nil => trivial
  | cons entry rest ih =>
    simp only [remove, List.filter_cons]
    split_ifs
    · exact ⟨h.1, ih h.2⟩
    · exact ih h.2

theorem ordered_concat (h : EntriesOrdered entries) (hx : x.Ordered) :
    EntriesOrdered (entries ++ [(key, x)]) := by
  induction entries with
  | nil => exact ⟨hx, trivial⟩
  | cons entry rest ih => exact ⟨h.1, ih h.2⟩

theorem ordered_atHeader? {f : Entries → Option Entries}
    (hf : ∀ es es', EntriesOrdered es → f es = some es' → EntriesOrdered es') {path : List String}
    (h : EntriesOrdered entries) (hresult : atHeader? f path entries = some result) :
    EntriesOrdered result := by
  induction path generalizing entries result with
  | nil => exact hf entries result h hresult
  | cons part path ih =>
    simp only [atHeader?] at hresult
    split at hresult
    · obtain ⟨inner, hinner, hresult⟩ := Option.bind_eq_some_iff.mp hresult
      obtain rfl := Option.some.inj hresult
      exact ordered_replace h (ih (show EntriesOrdered [] from trivial) hinner)
    · rename_i origin inner hfind
      obtain ⟨inner', hinner, hresult⟩ := Option.bind_eq_some_iff.mp hresult
      obtain rfl := Option.some.inj hresult
      exact ordered_replace h (ih (ordered_of_find? h hfind) hinner)
    · rename_i last before hfind
      obtain ⟨last', hlast, hresult⟩ := Option.bind_eq_some_iff.mp hresult
      obtain rfl := Option.some.inj hresult
      have htables := ordered_of_find? h hfind
      exact ordered_replace h ⟨ih htables.1 hlast, htables.2⟩
    · cases hresult

theorem ordered_setDotted? {v : Value} (hv : v.Ordered) {path : List String}
    (h : EntriesOrdered entries) (hresult : setDotted? key v path entries = some result) :
    EntriesOrdered result := by
  induction path generalizing entries result with
  | nil =>
    simp only [setDotted?, addValue?] at hresult
    split_ifs at hresult
    obtain rfl := Option.some.inj hresult
    exact ordered_concat h hv
  | cons part path ih =>
    simp only [setDotted?] at hresult
    split at hresult
    · obtain ⟨inner, hinner, hresult⟩ := Option.bind_eq_some_iff.mp hresult
      obtain rfl := Option.some.inj hresult
      exact ordered_replace h (ih (show EntriesOrdered [] from trivial) hinner)
    · rename_i origin inner hfind
      obtain ⟨-, -, hresult⟩ := Option.bind_eq_some_iff.mp hresult
      obtain ⟨inner', hinner, hresult⟩ := Option.bind_eq_some_iff.mp hresult
      obtain rfl := Option.some.inj hresult
      exact ordered_replace h (ih (ordered_of_find? h hfind) hinner)
    · rename_i last before hfind
      obtain ⟨-, -, hresult⟩ := Option.bind_eq_some_iff.mp hresult
      obtain ⟨last', hlast, hresult⟩ := Option.bind_eq_some_iff.mp hresult
      obtain rfl := Option.some.inj hresult
      have htables := ordered_of_find? h hfind
      exact ordered_replace h ⟨ih htables.1 hlast, htables.2⟩
    · cases hresult

theorem ordered_lookUp? {path : List String} (h : EntriesOrdered entries)
    (hx : Draft.lookUp? key path entries = some x) : x.Ordered := by
  induction path generalizing entries with
  | nil => exact ordered_of_find? h hx
  | cons part path ih =>
    simp only [Draft.lookUp?] at hx
    split at hx
    · rename_i origin inner hfind
      exact ih (ordered_of_find? h hfind) hx
    · rename_i last before hfind
      exact ih (ordered_of_find? h hfind).1 hx
    · cases hx

end Entries

namespace Draft

/-- What stands in a document under construction is ordered. -/
structure Ordered (d : Draft) : Prop where
  root : EntriesOrdered d.root
  current : EntriesOrdered d.current

variable {d d' : Draft} (h : d.Ordered)
include h

theorem Ordered.close? {entries : Entries} (hclose : d.close? = some entries) :
    EntriesOrdered entries := by
  unfold Draft.close? at hclose
  split at hclose
  · obtain rfl := Option.some.inj hclose
    exact h.current
  · refine ordered_atHeader? ?_ h.root hclose
    intro parent parent' hparent hput
    split at hput
    · obtain rfl := Option.some.inj hput
      exact ordered_replace hparent ⟨h.current, trivial⟩
    · rename_i earlier _ hfind
      obtain rfl := Option.some.inj hput
      exact ordered_replace hparent ⟨h.current, ordered_of_find? hparent hfind⟩
    · obtain rfl := Option.some.inj hput
      exact ordered_replace hparent h.current
    · obtain rfl := Option.some.inj hput
      exact ordered_replace hparent h.current
    · cases hput

theorem Ordered.openTable? {path : List String} (hopen : d.openTable? path = some d') :
    d'.Ordered := by
  obtain ⟨root, hroot, hopen⟩ := Option.bind_eq_some_iff.mp hopen
  obtain ⟨⟨current, root'⟩, hreopen, hopen⟩ := Option.bind_eq_some_iff.mp hopen
  obtain rfl := Option.some.inj hopen
  have hroot := h.close? hroot
  unfold Draft.reopen? at hreopen
  split at hreopen
  · cases hreopen
  · obtain ⟨root₁, hroot₁, hreopen⟩ := Option.bind_eq_some_iff.mp hreopen
    have hroot₁ := ordered_atHeader? (fun _ _ hes heq => Option.some.inj heq ▸ hes) hroot hroot₁
    split at hreopen
    · obtain ⟨rfl, rfl⟩ := Prod.mk.inj (Option.some.inj hreopen)
      exact ⟨hroot₁, trivial⟩
    · rename_i inner hlook
      obtain ⟨root₂, hroot₂, hreopen⟩ := Option.bind_eq_some_iff.mp hreopen
      obtain ⟨rfl, rfl⟩ := Prod.mk.inj (Option.some.inj hreopen)
      refine ⟨ordered_atHeader? ?_ hroot₁ hroot₂, ordered_lookUp? hroot₁ hlook⟩
      exact fun _ _ hes heq => Option.some.inj heq ▸ ordered_remove hes
    · cases hreopen

theorem Ordered.openArray? {path : List String} (hopen : d.openArray? path = some d') :
    d'.Ordered := by
  obtain ⟨root, hroot, hopen⟩ := Option.bind_eq_some_iff.mp hopen
  obtain ⟨key, -, hopen⟩ := Option.bind_eq_some_iff.mp hopen
  obtain ⟨root', hroot', hopen⟩ := Option.bind_eq_some_iff.mp hopen
  obtain rfl := Option.some.inj hopen
  refine ⟨ordered_atHeader? ?_ (h.close? hroot) hroot', trivial⟩
  intro parent parent' hparent heq
  split at heq
  · exact Option.some.inj heq ▸ hparent
  · exact Option.some.inj heq ▸ hparent
  · cases heq

theorem Ordered.set? {path : List String} {v : Value} (hv : v.Ordered)
    (hset : d.set? path v = some d') : d'.Ordered := by
  obtain ⟨key, -, hset⟩ := Option.bind_eq_some_iff.mp hset
  obtain ⟨current, hcurrent, hset⟩ := Option.bind_eq_some_iff.mp hset
  obtain rfl := Option.some.inj hset
  exact ⟨h.root, ordered_setDotted? hv h.current hcurrent⟩

end Draft

section Reading

variable {cs rest : List Char} {v : Value}

theorem ordered_of_integer? (h : integer? cs = some (v, rest)) : v.Ordered := by
  unfold integer? at h
  -- in each base, and without one, an integer is read from digits
  split at h
  all_goals
    obtain ⟨ds, -, h⟩ := Option.bind_eq_some_iff.mp h
    obtain ⟨n, -, h⟩ := Option.bind_eq_some_iff.mp h
    obtain ⟨rfl, -⟩ := Prod.mk.inj (Option.some.inj h)
    trivial

theorem ordered_of_floatValue? {negative : Bool} {digits : ℕ} {e : ℤ}
    (h : floatValue? negative digits e = some v) : v.Ordered := by
  have hv : (∃ x, v = .float x) ∨ ∃ name, v = .notFinite name := by
    unfold floatValue? at h
    cases negative <;> grind
  rcases hv with ⟨x, rfl⟩ | ⟨name, rfl⟩
  · trivial
  · trivial

theorem ordered_of_float? (h : float? cs = some (v, rest)) : v.Ordered := by
  obtain ⟨⟨whole, rest₁⟩, -, h⟩ := Option.bind_eq_some_iff.mp h
  dsimp only at h
  split at h
  · obtain ⟨⟨fraction, rest₂⟩, -, h⟩ := Option.bind_eq_some_iff.mp h
    obtain ⟨x, hx, h⟩ := Option.bind_eq_some_iff.mp h
    obtain ⟨rfl, -⟩ := Prod.mk.inj (Option.some.inj h)
    exact ordered_of_floatValue? hx
  · obtain ⟨⟨e, rest₂⟩, -, h⟩ := Option.bind_eq_some_iff.mp h
    obtain ⟨x, hx, h⟩ := Option.bind_eq_some_iff.mp h
    obtain ⟨rfl, -⟩ := Prod.mk.inj (Option.some.inj h)
    exact ordered_of_floatValue? hx

theorem ordered_of_notFinite? (h : notFinite? cs = some (v, rest)) : v.Ordered := by
  unfold notFinite? at h
  split at h
  · obtain ⟨rfl, -⟩ := Prod.mk.inj (Option.some.inj h)
    trivial
  · obtain ⟨rfl, -⟩ := Prod.mk.inj (Option.some.inj h)
    trivial
  · cases h

theorem ordered_of_scalar? (h : scalar? cs = some (v, rest)) : v.Ordered := by
  unfold scalar? at h
  split at h
  · cases h
  · split_ifs at h
    · obtain ⟨s, -, h⟩ := Option.map_eq_some_iff.mp h
      obtain ⟨rfl, -⟩ := Prod.mk.inj h
      trivial
    · obtain ⟨s, -, h⟩ := Option.map_eq_some_iff.mp h
      obtain ⟨rfl, -⟩ := Prod.mk.inj h
      trivial
    · obtain ⟨s, -, h⟩ := Option.map_eq_some_iff.mp h
      obtain ⟨rfl, -⟩ := Prod.mk.inj h
      trivial
    · simp only [Option.orElse_eq_orElse, Option.orElse_eq_or, Option.or_eq_some_iff] at h
      rcases h with h | ⟨-, h | ⟨-, h | ⟨-, h⟩⟩⟩
      · obtain ⟨s, -, h⟩ := Option.map_eq_some_iff.mp h
        obtain ⟨rfl, -⟩ := Prod.mk.inj h
        exact ⟨List.pairwise_singleton _ _, trivial, trivial⟩
      · exact ordered_of_float? h
      · exact ordered_of_notFinite? h
      · exact ordered_of_integer? h

end Reading

/-- Values, the items of an array and the pairs of a table in braces are ordered, whatever fuel they
are read with. -/
theorem ordered_of_value? (fuel : ℕ) :
    (∀ {depth cs v rest}, value? fuel depth cs = some (v, rest) → v.Ordered) ∧
    (∀ {depth cs vs rest}, items? fuel depth cs = some (vs, rest) → ∀ v ∈ vs, v.Ordered) ∧
    (∀ {depth entries cs entries' rest}, EntriesOrdered entries →
      pairs? fuel depth entries cs = some (entries', rest) → EntriesOrdered entries') := by
  induction fuel with
  | zero =>
    refine ⟨?_, ?_, ?_⟩
    · intro depth cs v rest h
      simp [value?] at h
    · intro depth cs vs rest h
      simp [items?] at h
    · intro depth entries cs entries' rest _ h
      simp [pairs?] at h
  | succ n ih =>
    obtain ⟨ihvalue, ihitems, ihpairs⟩ := ih
    refine ⟨?_, ?_, ?_⟩
    · intro depth cs v rest h
      simp only [value?] at h
      split at h
      · split_ifs at h
        obtain ⟨⟨xs, rest'⟩, hxs, h⟩ := Option.map_eq_some_iff.mp h
        obtain ⟨rfl, -⟩ := Prod.mk.inj h
        exact (Value.ordered_array_iff xs).mpr (ihitems hxs)
      · split_ifs at h
        split at h
        · obtain ⟨rfl, -⟩ := Prod.mk.inj (Option.some.inj h)
          exact Value.ordered_ofMembers (by simp [membersOf])
        · obtain ⟨⟨entries, rest'⟩, hentries, h⟩ := Option.bind_eq_some_iff.mp h
          obtain ⟨rfl, -⟩ := Prod.mk.inj (Option.some.inj h)
          have hordered := ihpairs (show EntriesOrdered [] from trivial) hentries
          exact Value.ordered_ofMembers (ordered_membersOf hordered)
      · exact ordered_of_scalar? h
    · intro depth cs vs rest h
      simp only [items?] at h
      obtain ⟨cs, -, h⟩ := Option.bind_eq_some_iff.mp h
      split at h
      · obtain ⟨rfl, -⟩ := Prod.mk.inj (Option.some.inj h)
        simp
      · obtain ⟨⟨v, rest'⟩, hv, h⟩ := Option.bind_eq_some_iff.mp h
        obtain ⟨next, -, h⟩ := Option.bind_eq_some_iff.mp h
        split at h
        · obtain ⟨rfl, -⟩ := Prod.mk.inj (Option.some.inj h)
          exact List.forall_mem_singleton.mpr (ihvalue hv)
        · obtain ⟨⟨vs', rest''⟩, hvs, h⟩ := Option.bind_eq_some_iff.mp h
          obtain ⟨rfl, -⟩ := Prod.mk.inj (Option.some.inj h)
          exact List.forall_mem_cons.mpr ⟨ihvalue hv, ihitems hvs⟩
        · cases h
    · intro depth entries cs entries' rest hentries h
      simp only [pairs?] at h
      obtain ⟨⟨path, rest₁⟩, -, h⟩ := Option.bind_eq_some_iff.mp h
      obtain ⟨rest₂, -, h⟩ := Option.bind_eq_some_iff.mp h
      obtain ⟨⟨v, rest₃⟩, hv, h⟩ := Option.bind_eq_some_iff.mp h
      obtain ⟨key, -, h⟩ := Option.bind_eq_some_iff.mp h
      obtain ⟨added, hadded, h⟩ := Option.bind_eq_some_iff.mp h
      have hadded := ordered_setDotted? (ihvalue hv) hentries hadded
      split at h
      · exact ihpairs hadded h
      · obtain ⟨rfl, -⟩ := Prod.mk.inj (Option.some.inj h)
        exact hadded
      · cases h

theorem ordered_of_lines? (fuel : ℕ) {d d' : Draft} {cs : List Char} (hd : d.Ordered)
    (h : lines? fuel d cs = some d') : d'.Ordered := by
  induction fuel generalizing d cs with
  | zero => cases h
  | succ n ih =>
    simp only [lines?] at h
    split at h
    · obtain rfl := Option.some.inj h
      exact hd
    · obtain ⟨⟨path, rest⟩, -, h⟩ := Option.bind_eq_some_iff.mp h
      obtain ⟨rest₁, -, h⟩ := Option.bind_eq_some_iff.mp h
      obtain ⟨rest₂, -, h⟩ := Option.bind_eq_some_iff.mp h
      obtain ⟨opened, hopened, h⟩ := Option.bind_eq_some_iff.mp h
      obtain ⟨rest₃, -, h⟩ := Option.bind_eq_some_iff.mp h
      exact ih (hd.openArray? hopened) h
    · obtain ⟨⟨path, rest⟩, -, h⟩ := Option.bind_eq_some_iff.mp h
      obtain ⟨rest₁, -, h⟩ := Option.bind_eq_some_iff.mp h
      obtain ⟨opened, hopened, h⟩ := Option.bind_eq_some_iff.mp h
      obtain ⟨rest₂, -, h⟩ := Option.bind_eq_some_iff.mp h
      exact ih (hd.openTable? hopened) h
    · split at h
      · exact ih hd h
      · obtain ⟨⟨path, rest⟩, -, h⟩ := Option.bind_eq_some_iff.mp h
        obtain ⟨rest₁, -, h⟩ := Option.bind_eq_some_iff.mp h
        obtain ⟨⟨v, rest₂⟩, hv, h⟩ := Option.bind_eq_some_iff.mp h
        obtain ⟨changed, hchanged, h⟩ := Option.bind_eq_some_iff.mp h
        obtain ⟨rest₃, -, h⟩ := Option.bind_eq_some_iff.mp h
        exact ih (hd.set? ((ordered_of_value? _).1 hv) hchanged) h

theorem ordered_of_read? {text : String} {v : Value} (h : read? text = some v) : v.Ordered := by
  obtain ⟨d, hd, h⟩ := Option.bind_eq_some_iff.mp h
  obtain ⟨entries, hentries, h⟩ := Option.bind_eq_some_iff.mp h
  obtain rfl := Option.some.inj h
  have hdraft : ({} : Draft).Ordered := ⟨trivial, trivial⟩
  have hordered := ordered_of_lines? _ hdraft hd
  exact Value.ordered_ofMembers (ordered_membersOf (hordered.close? hentries))

end Toml

namespace Document

theorem ordered_withoutSurplus {v : Value} (h : v.Ordered) : (withoutSurplus v).Ordered := by
  unfold withoutSurplus
  split
  · rename_i ms
    rw [Value.ordered_object_iff] at h ⊢
    refine ⟨?_, ?_⟩
    · rw [List.map_map]
      convert h.1 using 2
      funext m
      simp only [Function.comp_apply]
      split <;> rfl
    · intro m hm
      obtain ⟨m', hm', rfl⟩ := List.mem_map.mp hm
      have hvalue := h.2 m' hm'
      split
      · rw [Value.ordered_array_iff] at hvalue ⊢
        exact fun v hv => hvalue v (List.mem_of_mem_take hv)
      · exact hvalue
  · exact h

/-- A document is read from an ordered value. -/
theorem ordered_of_parse? {format : DocumentFormat} {text : String} {d : Document}
    (h : parse? format text = some d) : ∃ v : Value, v.Ordered ∧ decode v = .ok d := by
  cases format with
  | toml =>
    obtain ⟨v, hv, h⟩ := Option.bind_eq_some_iff.mp h
    obtain ⟨v', hv', rfl⟩ := Option.map_eq_some_iff.mp hv
    exact ⟨_, ordered_withoutSurplus (Toml.ordered_of_read? hv'), ok_of_toOption h⟩
  | json =>
    obtain ⟨v, hv, h⟩ := Option.bind_eq_some_iff.mp h
    obtain ⟨x, -, hv⟩ := Option.bind_eq_some_iff.mp hv
    exact ⟨v, Json.ordered_of_read? x hv, ok_of_toOption h⟩

end Document
end TreeLint
