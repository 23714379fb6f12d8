import Mathlib.Data.List.Pairwise
import TreeLint.Proofs.Chain

/-!
Where the entries of presets are read. A preset without a directory of its own takes that of the
document that refers to it first, so that what it extends is settled only as the walk comes to it.
Each preset of a chain stands after all that it extends in this sense.
-/
namespace TreeLint

/-- A preset of a chain with the directory that its entries were read in. -/
structure PlacedPreset extends ResolvedPreset where
  dir : HostPath

namespace PresetSource

/-- Entries of a document in `dir` lead to `key` in such a way that its own entries are read in
`place`. -/
inductive ReadIn (source : PresetSource) (dir : HostPath) (entries : List String) :
    PresetKey → HostPath → Prop
  | named {key} (h : Names dir entries key) : ReadIn source dir entries key (key.dir?.getD dir)
  | extended {key base document place} (hkey : ReadIn source dir entries key place)
      (hload : source.Loads key document) (hbase : Names place document.bases base) :
      ReadIn source dir entries base (base.dir?.getD place)

/-- The entries of a preset of the chain name `base`, where they were read. -/
def ExtendsIn (chain : List PlacedPreset) (key base : PresetKey) : Prop :=
  ∃ p ∈ chain, p.key = key ∧ Names p.dir p.document.bases base

/-- What holds of the presets that are resolved at any time. -/
structure Placed (source : PresetSource) (chain : List PlacedPreset) : Prop where
  loads : ∀ p ∈ chain, source.Loads p.key p.document
  normal : ∀ p ∈ chain, p.key.Normal
  distinct : chain.Pairwise fun p q => p.key ≠ q.key
  grounded : ∀ before p after, chain = before ++ p :: after →
    ∀ base, Names p.dir p.document.bases base → ∃ q ∈ before, q.key = base

variable {source : PresetSource} {dir : HostPath} {entries : List String}
  {chain : List PlacedPreset} {key : PresetKey} {document : Document}

theorem ReadIn.of_cons {entry : String} {place : HostPath}
    (h : source.ReadIn dir entries key place) : source.ReadIn dir (entry :: entries) key place := by
  induction h with
  | named h =>
    obtain ⟨e, he, hkey⟩ := h
    exact .named ⟨e, List.mem_cons_of_mem _ he, hkey⟩
  | extended _ hload hbase ih => exact .extended ih hload hbase

/-- What is read for the entries of a preset is read for those that name the preset. -/
theorem ReadIn.of_bases {base : PresetKey} {place : HostPath} (hkey : Names dir entries key)
    (hload : source.Loads key document)
    (h : source.ReadIn (key.dir?.getD dir) document.bases base place) :
    source.ReadIn dir entries base place := by
  induction h with
  | named h => exact .extended (.named hkey) hload h
  | extended _ hload hbase ih => exact .extended ih hload hbase

theorem ReadIn.dir_eq {place : HostPath} (h : source.ReadIn dir entries key place) :
    place = key.dir?.getD place := by
  cases h <;> cases key.dir? <;> rfl

theorem placed_nil : source.Placed [] where
  loads := by simp
  normal := by simp
  distinct := .nil
  grounded := by simp

/-- A preset may stand after all that its entries name. -/
theorem Placed.snoc (h : source.Placed chain) {place : HostPath} (hload : source.Loads key document)
    (hnormal : key.Normal) (hnew : ∀ p ∈ chain, p.key ≠ key)
    (hbases : ∀ base, Names place document.bases base → ∃ p ∈ chain, p.key = base) :
    source.Placed (chain ++ [⟨⟨key, document⟩, place⟩]) where
  loads := List.forall_mem_append.mpr ⟨h.loads, List.forall_mem_singleton.mpr hload⟩
  normal := List.forall_mem_append.mpr ⟨h.normal, List.forall_mem_singleton.mpr hnormal⟩
  distinct := by
    refine List.pairwise_append.mpr ⟨h.distinct, List.pairwise_singleton _ _, ?_⟩
    intro p hp q hq
    obtain rfl := List.mem_singleton.mp hq
    exact hnew p hp
  grounded := by
    intro before p after heq base hbase
    rcases List.eq_nil_or_concat after with rfl | ⟨after, last, rfl⟩
    · obtain ⟨rfl, hp⟩ := List.append_inj' heq rfl
      obtain rfl := (List.singleton_inj.mp hp).symm
      exact hbases base hbase
    · rw [List.concat_eq_append, ← List.cons_append, ← List.append_assoc] at heq
      exact h.grounded before p after (List.append_inj' heq rfl).1 base hbase

/-- Every preset that is come to has a place, and whatever the entries name is there in the end. -/
theorem Expands.placed {ancestry : List PresetKey} {resolved out : List ResolvedPreset}
    (h : source.Expands dir ancestry resolved entries out) (hchain : source.Placed chain)
    (hresolved : chain.map PlacedPreset.toResolvedPreset = resolved) :
    ∃ added : List PlacedPreset,
      (chain ++ added).map PlacedPreset.toResolvedPreset = out ∧
      source.Placed (chain ++ added) ∧
      (∀ p ∈ added, source.ReadIn dir entries p.key p.dir) ∧
      ∀ key, Names dir entries key → ∃ p ∈ chain ++ added, p.key = key := by
  -- on the walk: a preset that is visited is placed behind all that its own entries add
  induction h generalizing chain with
  | done =>
    exact ⟨[], by simpa using hresolved, by simpa using hchain, by simp,
      fun key hkey => (names_nil hkey).elim⟩
  | @pass dir ancestry resolved entry entries out key origin hkey hpath hseen hrest ih =>
    obtain ⟨added, hout, hplaced, hread, hnamed⟩ := ih hchain hresolved
    refine ⟨added, hout, hplaced, fun p hp => (hread p hp).of_cons, ?_⟩
    intro named hnames
    rcases (names_cons_iff hkey).mp hnames with rfl | hnames
    · obtain ⟨preset, hmem, hsame⟩ := hseen
      rw [← hresolved] at hmem
      obtain ⟨p, hp, rfl⟩ := List.mem_map.mp hmem
      exact ⟨p, List.mem_append_left _ hp,
        ((hchain.normal p hp).same_iff (PresetKey.parse_normal hkey)).mp hsame⟩
    · exact hnamed named hnames
  | @visit dir ancestry resolved entry entries between out key origin document
      hkey hpath hnew hload hbases hrest ihbases ihrest =>
    have hnames : Names dir (entry :: entries) key := ⟨entry, by simp, origin, hkey⟩
    obtain ⟨below, hbetween, hbelow, hreadBelow, hnamedBases⟩ := ihbases hchain hresolved
    have hfresh : ∀ p ∈ chain ++ below, p.key ≠ key := by
      rintro p hp rfl
      have hmem : p.toResolvedPreset ∈ between := hbetween ▸ List.mem_map_of_mem hp
      rcases hbases.not_on_path hmem with hold | hoff
      · simpa using hnew _ hold
      · simpa using hoff p.key (by simp)
    have hnext := hbelow.snoc hload (PresetKey.parse_normal hkey) hfresh hnamedBases
    obtain ⟨later, hout, hplaced, hreadLater, hnamed⟩ :=
      ihrest hnext (by rw [List.map_append, hbetween]; rfl)
    refine ⟨below ++ [⟨⟨key, document⟩, key.dir?.getD dir⟩] ++ later, ?_, ?_, ?_, ?_⟩
    · simpa using hout
    · simpa using hplaced
    · intro p hp
      rcases List.mem_append.mp hp with hp | hp
      · rcases List.mem_append.mp hp with hp | hp
        · exact (hreadBelow p hp).of_bases hnames hload
        · obtain rfl := List.mem_singleton.mp hp
          exact .named hnames
      · exact (hreadLater p hp).of_cons
    · intro named hnames
      rcases (names_cons_iff hkey).mp hnames with rfl | hnames
      · exact ⟨⟨⟨named, document⟩, named.dir?.getD dir⟩, by simp, rfl⟩
      · obtain ⟨p, hp, heq⟩ := hnamed named hnames
        exact ⟨p, by simpa using hp, heq⟩

theorem Placed.eq_of_key (h : source.Placed chain) {p q : PlacedPreset} (hp : p ∈ chain)
    (hq : q ∈ chain) (hkey : p.key = q.key) : p = q := by
  have hsymm : Std.Symm fun p q : PlacedPreset => p.key ≠ q.key := ⟨fun _ _ hne => hne.symm⟩
  by_contra hne
  exact h.distinct.forall hp hq hne hkey

/-- All that a preset extends in the end stands before it. -/
theorem Placed.before (h : source.Placed chain) {before after : List PlacedPreset}
    {p : PlacedPreset} (heq : chain = before ++ p :: after) {base : PresetKey}
    (hbase : Relation.TransGen (ExtendsIn chain) p.key base) : ∃ q ∈ before, q.key = base := by
  induction hbase with
  | single hedge =>
    obtain ⟨p', hp', hkey, hnames⟩ := hedge
    obtain rfl := h.eq_of_key hp' (by simp [heq]) hkey
    exact h.grounded _ _ _ heq _ hnames
  | tail _ hedge ih =>
    obtain ⟨q, hq, rfl⟩ := ih
    obtain ⟨q', hq', hkey, hnames⟩ := hedge
    obtain rfl := h.eq_of_key hq' (by simp [heq, hq]) hkey
    obtain ⟨first, between, rfl⟩ := List.append_of_mem hq
    obtain ⟨r, hr, hbase⟩ := h.grounded first q' (between ++ p :: after) (by simp [heq]) _ hnames
    exact ⟨r, List.mem_append_left _ hr, hbase⟩

/-- No preset leads to one that does not stand before it. -/
theorem Placed.not_leads (h : source.Placed chain) {before after : List PlacedPreset}
    {p q : PlacedPreset} (heq : chain = before ++ p :: after) (hq : q ∈ before ∨ q = p) :
    ¬Relation.TransGen (ExtendsIn chain) q.key p.key := by
  have hother : ∀ r ∈ before, r.key ≠ p.key := by
    have hdistinct := h.distinct
    rw [heq] at hdistinct
    exact fun r hr => (List.pairwise_append.mp hdistinct).2.2 r hr p (by simp)
  intro hleads
  rcases hq with hq | rfl
  · obtain ⟨first, between, rfl⟩ := List.append_of_mem hq
    have hsplit : chain = first ++ q :: (between ++ p :: after) := by simpa using heq
    obtain ⟨r, hr, hkey⟩ := h.before hsplit hleads
    exact hother r (List.mem_append_left _ hr) hkey
  · obtain ⟨r, hr, hkey⟩ := h.before heq hleads
    exact hother r hr hkey

/-- Of the presets that have a say the last one is extended by no other of them. -/
theorem Placed.exists_last (h : source.Placed chain) {α : Type} {say : PlacedPreset → Option α}
    (hsome : ∃ p ∈ chain, say p ≠ none) :
    ∃ winner ∈ chain, say winner ≠ none ∧ chain.reverse.findSome? say = say winner ∧
      ∀ other ∈ chain, say other ≠ none →
        ¬Relation.TransGen (ExtendsIn chain) other.key winner.key := by
  obtain ⟨p, hp, hsays⟩ := hsome
  cases hlast : chain.reverse.findSome? say with
  | none => exact absurd (List.findSome?_eq_none_iff.mp hlast p (List.mem_reverse.mpr hp)) hsays
  | some said =>
    obtain ⟨later, winner, earlier, heq, hsaid, hlater⟩ := List.findSome?_eq_some_iff.mp hlast
    have hchain : chain = earlier.reverse ++ winner :: later.reverse := by
      simpa using congrArg List.reverse heq
    refine ⟨winner, by simp [hchain], by simp [hsaid], hsaid.symm, fun other hother hsays => ?_⟩
    refine h.not_leads hchain ?_
    rw [hchain] at hother
    rcases List.mem_append.mp hother with hbefore | hother
    · exact Or.inl hbefore
    · rcases List.mem_cons.mp hother with rfl | hafter
      · exact Or.inr rfl
      · exact absurd (hlater other (List.mem_reverse.mp hafter)) hsays

/-- Where each preset has one place only, this is the plain graph of presets. -/
theorem Placed.extendsIn_iff (h : source.Placed chain) (hsource : source.SelfContained)
    {p : PlacedPreset} (hp : p ∈ chain) (hread : source.ReadIn dir entries p.key p.dir)
    (base : PresetKey) : ExtendsIn chain p.key base ↔ source.Extends p.key base := by
  rw [extends_iff hsource (h.loads p hp) p.dir, ← hread.dir_eq]
  constructor
  · rintro ⟨q, hq, hkey, hnames⟩
    obtain rfl := h.eq_of_key hq hp hkey
    exact hnames
  · intro hnames
    exact ⟨p, hp, rfl, hnames⟩

end PresetSource
end TreeLint
