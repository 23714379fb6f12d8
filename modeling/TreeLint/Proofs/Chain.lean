import Mathlib.Logic.Relation
import TreeLint.Config.Chain
import TreeLint.Proofs.Ascending
import TreeLint.Proofs.HostPath
import TreeLint.Proofs.Results

/-!
The order in which presets are resolved. Presets and what they extend form a graph over keys. A
chain that resolves holds the keys that its entries lead to, each once, and after all keys that it
leads to itself.
-/
namespace TreeLint

namespace PresetKey

/-- Keys as entries name them, with files in normal form. -/
def Normal : PresetKey → Prop
  | .builtin _ => True
  | .file path => ∃ p : HostPath, path = p.normalize

@[simp] theorem same_self (key : PresetKey) : key.same key = true := by
  cases key <;> simp [same, HostPath.same]

theorem same_comm (key key' : PresetKey) : key.same key' = key'.same key := by
  cases key with
  | builtin name => cases key' <;> simp [same, eq_comm]
  | file path => cases key' <;> simp [same, HostPath.same, eq_comm]

theorem Normal.same_iff {key key' : PresetKey} (h : key.Normal) (h' : key'.Normal) :
    key.same key' = true ↔ key = key' := by
  cases key with
  | builtin name => cases key' <;> simp [same]
  | file path =>
    cases key' with
    | builtin name => simp [same]
    | file path' =>
      obtain ⟨p, rfl⟩ := h
      obtain ⟨p', rfl⟩ := h'
      simp [same, HostPath.same_normalize_iff]

theorem parse_normal {entry origin : String} {dir : HostPath} {key : PresetKey}
    (h : parse entry dir origin = .ok key) : key.Normal := by
  unfold parse at h
  split_ifs at h
  · obtain rfl := Except.ok.inj h
    trivial
  · obtain rfl := Except.ok.inj h
    exact ⟨_, rfl⟩

/-- The document that refers to a preset is there for errors only. -/
theorem parse_origin {entry origin origin' : String} {dir : HostPath} {key : PresetKey}
    (h : parse entry dir origin = .ok key) : parse entry dir origin' = .ok key := by
  unfold parse at h ⊢
  split_ifs at h ⊢
  · exact h
  · exact h

theorem parse_builtin {entry origin : String} {dir dir' : HostPath}
    (h : entry.startsWith Preset.builtinStart = true) :
    parse entry dir origin = parse entry dir' origin := by
  simp [parse, h]

end PresetKey

namespace PresetSource

/-- An entry of a document in `dir` names `key`. -/
def Names (dir : HostPath) (entries : List String) (key : PresetKey) : Prop :=
  ∃ entry ∈ entries, ∃ origin, PresetKey.parse entry dir origin = .ok key

def Loads (source : PresetSource) (key : PresetKey) (document : Document) : Prop :=
  ∃ origin, source.load key origin = .ok document

/-- The document of `key` names `base`. A built-in preset takes the directory of the document that
refers to it. -/
def Extends (source : PresetSource) (key base : PresetKey) : Prop :=
  ∃ document referrer, source.Loads key document ∧
    Names (key.dir?.getD referrer) document.bases base

/-- Entries of a document in `dir` lead to `key`. -/
def Reachable (source : PresetSource) (dir : HostPath) (entries : List String) (key : PresetKey) :
    Prop :=
  ∃ first, Names dir entries first ∧ Relation.ReflTransGen source.Extends first key

/-- What a document extends does not hang on where it is referred to. -/
structure SelfContained (source : PresetSource) : Prop where
  builtins : ∀ name document, source.Loads (.builtin name) document →
    ∀ entry ∈ document.bases, entry.startsWith Preset.builtinStart = true
  files : ∀ path document, source.Loads (.file path) document → path.parent?.isSome = true

theorem names_nil {dir : HostPath} {key : PresetKey} : ¬ Names dir [] key := by
  rintro ⟨entry, hentry, -⟩
  cases hentry

theorem names_cons_iff {dir : HostPath} {entry origin : String} {entries : List String}
    {first key : PresetKey} (h : PresetKey.parse entry dir origin = .ok first) :
    Names dir (entry :: entries) key ↔ key = first ∨ Names dir entries key := by
  constructor
  · rintro ⟨e, he, o, hkey⟩
    rcases List.mem_cons.mp he with rfl | he
    · rw [PresetKey.parse_origin h] at hkey
      exact Or.inl (Except.ok.inj hkey).symm
    · exact Or.inr ⟨e, he, o, hkey⟩
  · rintro (rfl | ⟨e, he, o, hkey⟩)
    · exact ⟨entry, by simp, origin, h⟩
    · exact ⟨e, by simp [he], o, hkey⟩

theorem Names.of_builtins {dir dir' : HostPath} {entries : List String} {key : PresetKey}
    (hentries : ∀ entry ∈ entries, entry.startsWith Preset.builtinStart = true)
    (h : Names dir entries key) : Names dir' entries key := by
  obtain ⟨entry, hentry, origin, hkey⟩ := h
  rw [PresetKey.parse_builtin (hentries entry hentry)] at hkey
  exact ⟨entry, hentry, origin, hkey⟩

theorem Loads.unique {source : PresetSource} {key : PresetKey} {document document' : Document}
    (h : source.Loads key document) (h' : source.Loads key document') : document = document' := by
  obtain ⟨origin, h⟩ := h
  obtain ⟨origin', h'⟩ := h'
  rw [source.load_ok h] at h'
  exact Except.ok.inj h'

/-- The edges out of a preset are what its own document names, wherever it is referred to. -/
theorem extends_iff {source : PresetSource} {key base : PresetKey} {document : Document}
    (hsource : source.SelfContained) (h : source.Loads key document) (dir : HostPath) :
    source.Extends key base ↔ Names (key.dir?.getD dir) document.bases base := by
  constructor
  · rintro ⟨document', referrer, h', hbase⟩
    obtain rfl := h.unique h'
    cases key with
    | builtin name => exact hbase.of_builtins (hsource.builtins name document h)
    | file path =>
      obtain ⟨parent, hparent⟩ := Option.isSome_iff_exists.mp (hsource.files path document h)
      simpa [PresetKey.dir?, hparent] using hbase
  · intro hbase
    exact ⟨document, dir, h, hbase⟩

/-- The presets that are built in extend one another only. -/
theorem loadBuiltin_bases {name origin entry : String} {document : Document}
    (h : loadBuiltin name origin = .ok document) (hentry : entry ∈ document.bases) :
    entry.startsWith Preset.builtinStart = true := by
  have hall : ∀ b ∈ Preset.builtins, ∀ e ∈ b.2.bases, e.startsWith Preset.builtinStart = true := by
    decide +kernel
  unfold loadBuiltin at h
  split at h
  · rename_i found hfound
    obtain rfl := Except.ok.inj h
    exact hall _ (Ascending.mem_of_find? hfound) entry hentry
  · cases h

/-- Texts of files that lie in some directory, beside the built-in presets, leave nothing open. -/
theorem selfContained_ofTexts [Explanations] {texts : List (String × DocumentFormat × String)}
    (h : ∀ t ∈ texts, t.1.startsWith Preset.builtinStart = false ∧
      (HostPath.mk t.1).parent?.isSome = true) : (ofTexts texts).SelfContained where
  builtins := by
    rintro name document ⟨origin, hload⟩ entry hentry
    simp only [ofTexts, PresetKey.display] at hload
    split at hload
    · rename_i format text hfound
      have hstart := (h _ (Ascending.mem_of_find? hfound)).1
      simp [String.toList_append] at hstart
    · exact loadBuiltin_bases hload hentry
  files := by
    rintro path document ⟨origin, hload⟩
    simp only [ofTexts, PresetKey.display] at hload
    split at hload
    · rename_i format text hfound
      exact (h _ (Ascending.mem_of_find? hfound)).2
    · cases hload

/-- How `expand` gets through a list of entries. A key that is resolved is passed over; another one
is visited, and stands after all that its document adds. -/
inductive Expands (source : PresetSource) : HostPath → List PresetKey → List ResolvedPreset →
    List String → List ResolvedPreset → Prop
  | done {dir ancestry resolved} : Expands source dir ancestry resolved [] resolved
  | pass {dir ancestry resolved entry entries out key origin}
      (hkey : PresetKey.parse entry dir origin = .ok key)
      (hpath : ∀ a ∈ ancestry, a.same key = false)
      (hseen : ∃ preset ∈ resolved, preset.key.same key = true)
      (hrest : Expands source dir ancestry resolved entries out) :
      Expands source dir ancestry resolved (entry :: entries) out
  | visit {dir ancestry resolved entry entries between out key origin document}
      (hkey : PresetKey.parse entry dir origin = .ok key)
      (hpath : ∀ a ∈ ancestry, a.same key = false)
      (hnew : ∀ preset ∈ resolved, preset.key.same key = false)
      (hload : source.Loads key document)
      (hbases : Expands source (key.dir?.getD dir) (ancestry ++ [key]) resolved document.bases
        between)
      (hrest : Expands source dir ancestry (between ++ [⟨key, document⟩]) entries out) :
      Expands source dir ancestry resolved (entry :: entries) out

/-- What one entry does, when it comes to an end. -/
theorem expandEntry_ok {source : PresetSource}
    {expandBases : HostPath → List PresetKey → List ResolvedPreset → List String →
      Except ConfigError (List ResolvedPreset)}
    {dir : HostPath} {ancestry : List PresetKey} {resolved out : List ResolvedPreset}
    {entry : String} (h : source.expandEntry expandBases dir ancestry resolved entry = .ok out) :
    ∃ key, PresetKey.parse entry dir (originOf ancestry) = .ok key ∧
      (∀ a ∈ ancestry, a.same key = false) ∧
      ((∃ preset ∈ resolved, preset.key.same key = true) ∧ out = resolved ∨
        (∀ preset ∈ resolved, preset.key.same key = false) ∧
          ∃ document between, source.load key (originOf ancestry) = .ok document ∧
            expandBases (key.dir?.getD dir) (ancestry ++ [key]) resolved document.bases =
              .ok between ∧
            out = between ++ [⟨key, document⟩]) := by
  obtain ⟨key, hkey, h⟩ := bind_ok_iff.mp h
  obtain ⟨hpath, h⟩ := guard_ok_iff.mp h
  refine ⟨key, hkey, by simpa using hpath, ?_⟩
  simp only at h
  split_ifs at h with hseen
  · exact Or.inl ⟨by simpa using hseen, (Except.ok.inj h).symm⟩
  · obtain ⟨document, hload, h⟩ := bind_ok_iff.mp h
    obtain ⟨between, hbases, h⟩ := bind_ok_iff.mp h
    exact Or.inr ⟨by simpa using hseen, document, between, hload, hbases, (Except.ok.inj h).symm⟩

theorem expands_of_expand {source : PresetSource} {depth : Nat} {dir : HostPath}
    {ancestry : List PresetKey} {resolved out : List ResolvedPreset} {entries : List String}
    (h : source.expand depth dir ancestry resolved entries = .ok out) :
    source.Expands dir ancestry resolved entries out := by
  induction depth generalizing dir ancestry resolved entries out with
  | zero =>
    unfold expand at h
    split_ifs at h with hempty
    obtain rfl := List.isEmpty_iff.mp hempty
    obtain rfl := Except.ok.inj h
    exact .done
  | succ n ih =>
    induction entries generalizing resolved with
    | nil =>
      obtain rfl := Except.ok.inj h
      exact .done
    | cons entry entries ihentries =>
      rw [expand, List.foldlM_cons] at h
      obtain ⟨next, hentry, h⟩ := bind_ok_iff.mp h
      have hrest : source.Expands dir ancestry next entries out := ihentries h
      obtain ⟨key, hkey, hpath, ⟨hseen, rfl⟩ | ⟨hnew, document, between, hload, hbases, rfl⟩⟩ :=
        expandEntry_ok hentry
      · exact .pass hkey hpath hseen hrest
      · exact .visit hkey hpath hnew ⟨_, hload⟩ (ih hbases) hrest

/-- Nothing that is resolved is lost again. -/
theorem Expands.mem {source : PresetSource} {dir : HostPath} {ancestry : List PresetKey}
    {resolved out : List ResolvedPreset} {entries : List String}
    (h : source.Expands dir ancestry resolved entries out) {preset : ResolvedPreset}
    (hmem : preset ∈ resolved) : preset ∈ out := by
  induction h with
  | done => exact hmem
  | pass _ _ _ _ ih => exact ih hmem
  | visit _ _ _ _ _ _ ihbases ihrest => exact ihrest (List.mem_append_left _ (ihbases hmem))

theorem Expands.not_on_path {source : PresetSource} {dir : HostPath} {ancestry : List PresetKey}
    {resolved out : List ResolvedPreset} {entries : List String}
    (h : source.Expands dir ancestry resolved entries out) {preset : ResolvedPreset}
    (hmem : preset ∈ out) :
    preset ∈ resolved ∨ ∀ a ∈ ancestry, a.same preset.key = false := by
  induction h with
  | done => exact Or.inl hmem
  | pass _ _ _ _ ih => exact ih hmem
  | visit _ hpath _ _ _ _ ihbases ihrest =>
    rcases ihrest hmem with hbetween | hoff
    · rcases List.mem_append.mp hbetween with hbetween | hlast
      · rcases ihbases hbetween with hresolved | hoff
        · exact Or.inl hresolved
        · exact Or.inr fun a ha => hoff a (List.mem_append_left _ ha)
      · obtain rfl := List.mem_singleton.mp hlast
        exact Or.inr hpath
    · exact Or.inr hoff

theorem Reachable.of_cons {source : PresetSource} {dir : HostPath} {entry : String}
    {entries : List String} {key : PresetKey} (h : source.Reachable dir entries key) :
    source.Reachable dir (entry :: entries) key := by
  obtain ⟨first, ⟨e, he, hfirst⟩, hkey⟩ := h
  exact ⟨first, ⟨e, List.mem_cons_of_mem _ he, hfirst⟩, hkey⟩

/-- Whatever is added can be reached. -/
theorem Expands.reachable {source : PresetSource} {dir : HostPath} {ancestry : List PresetKey}
    {resolved out : List ResolvedPreset} {entries : List String}
    (h : source.Expands dir ancestry resolved entries out) {preset : ResolvedPreset}
    (hmem : preset ∈ out) : preset ∈ resolved ∨ source.Reachable dir entries preset.key := by
  induction h with
  | done => exact Or.inl hmem
  | pass _ _ _ _ ih =>
    rcases ih hmem with hresolved | hreach
    · exact Or.inl hresolved
    · exact Or.inr hreach.of_cons
  | @visit dir ancestry resolved entry entries between out key origin document
      hkey _ _ hload _ _ ihbases ihrest =>
    have hnamed : Names dir (entry :: entries) key := ⟨entry, by simp, origin, hkey⟩
    rcases ihrest hmem with hbetween | hreach
    · rcases List.mem_append.mp hbetween with hbetween | hlast
      · rcases ihbases hbetween with hresolved | ⟨first, hfirst, hpath⟩
        · exact Or.inl hresolved
        · have hedge : source.Extends key first := ⟨document, dir, hload, hfirst⟩
          exact Or.inr ⟨key, hnamed, .head hedge hpath⟩
      · obtain rfl := List.mem_singleton.mp hlast
        exact Or.inr ⟨key, hnamed, .refl⟩
    · exact Or.inr hreach.of_cons

/-- What holds of the presets that are resolved at any time. -/
structure Ordered (source : PresetSource) (resolved : List ResolvedPreset) : Prop where
  loads : ∀ preset ∈ resolved, source.Loads preset.key preset.document
  normal : ∀ preset ∈ resolved, preset.key.Normal
  distinct : resolved.Pairwise fun p q => p.key.same q.key = false
  grounded : ∀ i, ∀ hi : i < resolved.length, ∀ base, source.Extends resolved[i].key base →
    ∃ j, ∃ hj : j < i, resolved[j].key = base

theorem ordered_nil {source : PresetSource} : source.Ordered [] where
  loads := by simp
  normal := by simp
  distinct := .nil
  grounded := by simp

/-- A preset may stand after all that it extends itself. -/
theorem Ordered.snoc {source : PresetSource} {resolved : List ResolvedPreset} {key : PresetKey}
    {document : Document} (h : source.Ordered resolved) (hload : source.Loads key document)
    (hnormal : key.Normal) (hnew : ∀ preset ∈ resolved, preset.key.same key = false)
    (hbases : ∀ base, source.Extends key base → ∃ preset ∈ resolved, preset.key = base) :
    source.Ordered (resolved ++ [⟨key, document⟩]) where
  loads := List.forall_mem_append.mpr ⟨h.loads, List.forall_mem_singleton.mpr hload⟩
  normal := List.forall_mem_append.mpr ⟨h.normal, List.forall_mem_singleton.mpr hnormal⟩
  distinct := by
    refine List.pairwise_append.mpr ⟨h.distinct, List.pairwise_singleton _ _, ?_⟩
    intro p hp q hq
    obtain rfl := List.mem_singleton.mp hq
    exact hnew p hp
  grounded := by
    intro i hi base hbase
    by_cases hlt : i < resolved.length
    · rw [List.getElem_append_left hlt] at hbase
      obtain ⟨j, hj, hkey⟩ := h.grounded i hlt base hbase
      refine ⟨j, hj, ?_⟩
      rw [List.getElem_append_left (by omega)]
      exact hkey
    · have hlast : i = resolved.length := by
        simp only [List.length_append, List.length_singleton] at hi
        omega
      subst hlast
      rw [List.getElem_concat_length rfl] at hbase
      obtain ⟨preset, hmem, hkey⟩ := hbases base hbase
      obtain ⟨j, hj, hpreset⟩ := List.getElem_of_mem hmem
      refine ⟨j, hj, ?_⟩
      rw [List.getElem_append_left hj, hpreset]
      exact hkey

/-- The order is kept, and all that the entries name is there in the end. -/
theorem Expands.ordered {source : PresetSource} {dir : HostPath} {ancestry : List PresetKey}
    {resolved out : List ResolvedPreset} {entries : List String}
    (hsource : source.SelfContained) (h : source.Expands dir ancestry resolved entries out)
    (hresolved : source.Ordered resolved) :
    source.Ordered out ∧ ∀ key, Names dir entries key → ∃ preset ∈ out, preset.key = key := by
  induction h with
  | done => exact ⟨hresolved, fun key hkey => (names_nil hkey).elim⟩
  | @pass dir ancestry resolved entry entries out key origin hkey hpath hseen hrest ih =>
    obtain ⟨hout, hnamed⟩ := ih hresolved
    refine ⟨hout, ?_⟩
    intro named hnames
    rcases (names_cons_iff hkey).mp hnames with rfl | hnames
    · obtain ⟨preset, hmem, hsame⟩ := hseen
      have hnormal := PresetKey.parse_normal hkey
      exact ⟨preset, hrest.mem hmem, ((hresolved.normal preset hmem).same_iff hnormal).mp hsame⟩
    · exact hnamed named hnames
  | @visit dir ancestry resolved entry entries between out key origin document
      hkey hpath hnew hload hbases hrest ihbases ihrest =>
    obtain ⟨hbetween, hnamedBases⟩ := ihbases hresolved
    have hfresh : ∀ preset ∈ between, preset.key.same key = false := by
      intro preset hmem
      rcases hbases.not_on_path hmem with hold | hoff
      · exact hnew preset hold
      · rw [PresetKey.same_comm]
        exact hoff key (by simp)
    have hnext : source.Ordered (between ++ [⟨key, document⟩]) := by
      refine hbetween.snoc hload (PresetKey.parse_normal hkey) hfresh ?_
      intro base hbase
      exact hnamedBases base ((extends_iff hsource hload dir).mp hbase)
    obtain ⟨hout, hnamed⟩ := ihrest hnext
    refine ⟨hout, ?_⟩
    intro named hnames
    rcases (names_cons_iff hkey).mp hnames with rfl | hnames
    · exact ⟨⟨named, document⟩, hrest.mem (by simp), rfl⟩
    · exact hnamed named hnames

/-- All that a resolved preset leads to stands before it. -/
theorem Ordered.before {source : PresetSource} {resolved : List ResolvedPreset}
    (h : source.Ordered resolved) {i : Nat} (hi : i < resolved.length) {base : PresetKey}
    (hbase : Relation.TransGen source.Extends resolved[i].key base) :
    ∃ j, ∃ hj : j < i, resolved[j].key = base := by
  induction hbase with
  | single hedge => exact h.grounded i hi _ hedge
  | tail _ hedge ih =>
    obtain ⟨j, hj, hkey⟩ := ih
    rw [← hkey] at hedge
    obtain ⟨k, hk, hbase⟩ := h.grounded j (by omega) _ hedge
    exact ⟨k, by omega, hbase⟩

theorem Ordered.mem_of_path {source : PresetSource} {resolved : List ResolvedPreset}
    (h : source.Ordered resolved) {preset : ResolvedPreset} (hmem : preset ∈ resolved)
    {base : PresetKey} (hpath : Relation.ReflTransGen source.Extends preset.key base) :
    ∃ p ∈ resolved, p.key = base := by
  rcases Relation.reflTransGen_iff_eq_or_transGen.mp hpath with rfl | hpath
  · exact ⟨preset, hmem, rfl⟩
  · obtain ⟨i, hi, rfl⟩ := List.getElem_of_mem hmem
    obtain ⟨j, hj, hkey⟩ := h.before hi hpath
    exact ⟨resolved[j], List.getElem_mem _, hkey⟩

theorem off_ancestry_of_resolve {source : PresetSource} {entries : List String} {dir : HostPath}
    {ancestry : List PresetKey} {resolved : List ResolvedPreset}
    (h : source.resolve entries dir ancestry = .ok resolved) {preset : ResolvedPreset}
    (hmem : preset ∈ resolved) : ∀ a ∈ ancestry, a.same preset.key = false :=
  ((expands_of_expand h).not_on_path hmem).resolve_left List.not_mem_nil

theorem ordered_of_resolve {source : PresetSource} {entries : List String} {dir : HostPath}
    {ancestry : List PresetKey} {resolved : List ResolvedPreset} (hsource : source.SelfContained)
    (h : source.resolve entries dir ancestry = .ok resolved) : source.Ordered resolved :=
  ((expands_of_expand h).ordered hsource ordered_nil).1

/-- A chain that resolves holds what can be reached from its entries. -/
theorem mem_keys_resolve_iff {source : PresetSource} {entries : List String} {dir : HostPath}
    {ancestry : List PresetKey} {resolved : List ResolvedPreset} (hsource : source.SelfContained)
    (h : source.resolve entries dir ancestry = .ok resolved) (key : PresetKey) :
    key ∈ resolved.map ResolvedPreset.key ↔ source.Reachable dir entries key := by
  have hexpands := expands_of_expand h
  constructor
  · intro hkey
    obtain ⟨preset, hmem, rfl⟩ := List.mem_map.mp hkey
    exact (hexpands.reachable hmem).resolve_left List.not_mem_nil
  · rintro ⟨first, hfirst, hpath⟩
    obtain ⟨hordered, hnamed⟩ := hexpands.ordered hsource ordered_nil
    obtain ⟨preset, hmem, rfl⟩ := hnamed first hfirst
    exact List.mem_map.mpr (hordered.mem_of_path hmem hpath)

/-- A chain that resolves holds what can be reached from its entries, once each and nothing on the
way to it, and every preset stands after all that it extends in the end. -/
theorem resolve_order {source : PresetSource} {entries : List String} {dir : HostPath}
    {ancestry : List PresetKey} {resolved : List ResolvedPreset} (hsource : source.SelfContained)
    (h : source.resolve entries dir ancestry = .ok resolved) :
    (∀ key, key ∈ resolved.map ResolvedPreset.key ↔ source.Reachable dir entries key) ∧
    (resolved.Pairwise fun p q => p.key.same q.key = false) ∧
    (∀ preset ∈ resolved, source.Loads preset.key preset.document ∧
      ∀ a ∈ ancestry, a.same preset.key = false) ∧
    ∀ i, ∀ hi : i < resolved.length, ∀ base,
      Relation.TransGen source.Extends resolved[i].key base →
        ∃ j, ∃ hj : j < i, resolved[j].key = base := by
  have hordered := ordered_of_resolve hsource h
  refine ⟨mem_keys_resolve_iff hsource h, hordered.distinct, fun preset hmem => ?_,
    fun i hi base => hordered.before hi⟩
  exact ⟨hordered.loads preset hmem, off_ancestry_of_resolve h hmem⟩

attribute [local instance] Explanations.brief

/-- A file and a built-in preset that both extend `builtin/base` in the end. -/
def diamond : PresetSource := ofTexts [
  ("/p/presets/shared.json", .json, "\x7b\"extends\": [\"builtin/base\"]\x7d"),
  ("/p/presets/team.json", .json,
    "\x7b\"extends\": [\"./shared.json\", \"builtin/clean-architecture\"]\x7d")]

theorem diamond_selfContained : diamond.SelfContained :=
  selfContained_ofTexts (by decide +kernel)

/-- `builtin/base` is come to three times on the way. -/
theorem resolve_diamond : ∃ resolved,
    diamond.resolve ["./presets/team.json", "builtin/base"] ⟨"/p"⟩ [.file ⟨"/p/struct-lint.json"⟩] =
      .ok resolved ∧
    resolved.map ResolvedPreset.key = [.builtin "base", .file ⟨"/p/presets/shared.json"⟩,
      .builtin "clean-architecture", .file ⟨"/p/presets/team.json"⟩] := by
  have hkeys : (diamond.resolve ["./presets/team.json", "builtin/base"] ⟨"/p"⟩
      [.file ⟨"/p/struct-lint.json"⟩]).toOption.map (·.map ResolvedPreset.key) =
      some [.builtin "base", .file ⟨"/p/presets/shared.json"⟩, .builtin "clean-architecture",
        .file ⟨"/p/presets/team.json"⟩] := by
    decide +kernel
  cases h : diamond.resolve ["./presets/team.json", "builtin/base"] ⟨"/p"⟩
      [.file ⟨"/p/struct-lint.json"⟩] with
  | error e => simp [h, Except.toOption] at hkeys
  | ok resolved => exact ⟨resolved, rfl, by simpa [h, Except.toOption] using hkeys⟩

theorem resolve_order_diamond : diamond.SelfContained ∧ ∃ resolved,
    diamond.resolve ["./presets/team.json", "builtin/base"] ⟨"/p"⟩ [.file ⟨"/p/struct-lint.json"⟩] =
      .ok resolved ∧
    resolved.map ResolvedPreset.key = [.builtin "base", .file ⟨"/p/presets/shared.json"⟩,
      .builtin "clean-architecture", .file ⟨"/p/presets/team.json"⟩] ∧
    (∀ key, key ∈ resolved.map ResolvedPreset.key ↔
      diamond.Reachable ⟨"/p"⟩ ["./presets/team.json", "builtin/base"] key) ∧
    ∀ i, ∀ hi : i < resolved.length, ∀ base,
      Relation.TransGen diamond.Extends resolved[i].key base →
        ∃ j, ∃ hj : j < i, resolved[j].key = base := by
  obtain ⟨resolved, h, hkeys⟩ := resolve_diamond
  obtain ⟨hreach, -, -, hbefore⟩ := resolve_order diamond_selfContained h
  exact ⟨diamond_selfContained, resolved, h, hkeys, hreach, hbefore⟩

end PresetSource
end TreeLint
