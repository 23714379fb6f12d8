import Mathlib.Data.List.Chain
import Mathlib.Data.List.TakeWhile
import Mathlib.Data.Set.Card
import Mathlib.Order.CompletePartialOrder
import TreeLint.Proofs.Chain

/-!
How the walk over presets comes to an end. No key stands twice on the way, so that the walk is never
deeper than there are keys to load. Where all that is referred to can be loaded, only a cycle makes
it fail, and then the error shows the cycle.
-/
namespace TreeLint

namespace PresetKey

/-- Some key can be read from an entry. -/
def Parses (entry : String) : Prop := ∃ dir origin key, parse entry dir origin = .ok key

/-- The directory of a document says which key its entry names, and not whether it names one. -/
theorem Parses.parse_ok {entry : String} (h : Parses entry) (dir : HostPath) (origin : String) :
    ∃ key, parse entry dir origin = .ok key := by
  obtain ⟨dir', origin', key, h⟩ := h
  unfold parse at h ⊢
  split_ifs at h ⊢
  · exact ⟨_, rfl⟩
  · exact ⟨_, rfl⟩

end PresetKey

namespace PresetSource

/-- A key as entries name it, with a document to load. -/
def Loadable (source : PresetSource) (key : PresetKey) : Prop :=
  key.Normal ∧ ∃ document, source.Loads key document

/-- The size of a source is a bound on the keys that can be loaded. -/
structure Bounded (source : PresetSource) : Prop where
  finite : {key | source.Loadable key}.Finite
  card_le : {key | source.Loadable key}.ncard ≤ source.size

theorem bounded_of_list {source : PresetSource} {keys : List PresetKey}
    (h : ∀ key, source.Loadable key → key ∈ keys) (hlength : keys.length ≤ source.size) :
    source.Bounded := by
  have hsub : {key | source.Loadable key} ⊆ (keys.toFinset : Set PresetKey) :=
    fun key hkey => by simpa using h key hkey
  refine ⟨(Finset.finite_toSet _).subset hsub, ?_⟩
  calc {key | source.Loadable key}.ncard
      ≤ (keys.toFinset : Set PresetKey).ncard := Set.ncard_le_ncard hsub (Finset.finite_toSet _)
    _ = keys.toFinset.card := Set.ncard_coe_finset _
    _ ≤ keys.length := List.toFinset_card_le keys
    _ ≤ source.size := hlength

theorem mem_builtins_of_loadBuiltin {name origin : String} {document : Document}
    (h : loadBuiltin name origin = .ok document) : name ∈ Preset.names := by
  unfold loadBuiltin at h
  split at h
  · rename_i found hfound
    exact List.mem_map_of_mem (Ascending.mem_of_find? hfound)
  · cases h

theorem bounded_ofTexts [Explanations] (texts : List (String × DocumentFormat × String)) :
    (ofTexts texts).Bounded := by
  let named (t : String × DocumentFormat × String) : PresetKey :=
    .builtin (String.ofList (t.1.toList.drop Preset.builtinStart.length))
  let keys : List PresetKey :=
    texts.map (fun t => .file ⟨t.1⟩) ++ texts.map named ++ Preset.names.map .builtin
  refine bounded_of_list (show ∀ key, (ofTexts texts).Loadable key → key ∈ keys from ?_) ?_
  · rintro key ⟨-, document, origin, hload⟩
    simp only [ofTexts] at hload
    split at hload
    · rename_i format text hfound
      have hmem := Ascending.mem_of_find? hfound
      cases key with
      | builtin name =>
        refine List.mem_append_left _ (List.mem_append_right _ (List.mem_map.mpr ⟨_, hmem, ?_⟩))
        simp [named, PresetKey.display, String.toList_append, ← String.length_toList]
      | file path =>
        exact List.mem_append_left _ (List.mem_append_left _ (List.mem_map.mpr ⟨_, hmem, rfl⟩))
    · cases key with
      | builtin name =>
        exact List.mem_append_right _ (List.mem_map_of_mem (mem_builtins_of_loadBuiltin hload))
      | file path => cases hload
  · have hlen : (ofTexts texts).size = 2 * texts.length + Preset.builtins.length := rfl
    simp only [hlen, keys, Preset.names, List.length_append, List.length_map]
    omega

/-- The walk over `entries` ends with `result`, and no more than `depth` calls of it are open at any
time. -/
inductive Walks (source : PresetSource) : (depth : ℕ) → HostPath → List PresetKey →
    List ResolvedPreset → List String → Except ConfigError (List ResolvedPreset) → Prop
  | done {n dir ancestry resolved} : Walks source (n + 1) dir ancestry resolved [] (.ok resolved)
  | unread {n dir ancestry resolved entry entries error}
      (hkey : PresetKey.parse entry dir (originOf ancestry) = .error error) :
      Walks source (n + 1) dir ancestry resolved (entry :: entries) (.error error)
  | cycle {n dir ancestry resolved entry entries key}
      (hkey : PresetKey.parse entry dir (originOf ancestry) = .ok key)
      (hpath : ∃ a ∈ ancestry, a.same key = true) :
      Walks source (n + 1) dir ancestry resolved (entry :: entries)
        (.error (.cycle (cycleOf ancestry key)))
  | pass {n dir ancestry resolved entry entries key result}
      (hkey : PresetKey.parse entry dir (originOf ancestry) = .ok key)
      (hpath : ∀ a ∈ ancestry, a.same key = false)
      (hseen : ∃ preset ∈ resolved, preset.key.same key = true)
      (hrest : Walks source (n + 1) dir ancestry resolved entries result) :
      Walks source (n + 1) dir ancestry resolved (entry :: entries) result
  | missing {n dir ancestry resolved entry entries key error}
      (hkey : PresetKey.parse entry dir (originOf ancestry) = .ok key)
      (hpath : ∀ a ∈ ancestry, a.same key = false)
      (hnew : ∀ preset ∈ resolved, preset.key.same key = false)
      (hload : source.load key (originOf ancestry) = .error error) :
      Walks source (n + 1) dir ancestry resolved (entry :: entries) (.error error)
  | failing {n dir ancestry resolved entry entries key document error}
      (hkey : PresetKey.parse entry dir (originOf ancestry) = .ok key)
      (hpath : ∀ a ∈ ancestry, a.same key = false)
      (hnew : ∀ preset ∈ resolved, preset.key.same key = false)
      (hload : source.load key (originOf ancestry) = .ok document)
      (hbases : Walks source n (key.dir?.getD dir) (ancestry ++ [key]) resolved document.bases
        (.error error)) :
      Walks source (n + 1) dir ancestry resolved (entry :: entries) (.error error)
  | visit {n dir ancestry resolved entry entries key document between result}
      (hkey : PresetKey.parse entry dir (originOf ancestry) = .ok key)
      (hpath : ∀ a ∈ ancestry, a.same key = false)
      (hnew : ∀ preset ∈ resolved, preset.key.same key = false)
      (hload : source.load key (originOf ancestry) = .ok document)
      (hbases : Walks source n (key.dir?.getD dir) (ancestry ++ [key]) resolved document.bases
        (.ok between))
      (hrest : Walks source (n + 1) dir ancestry (between ++ [⟨key, document⟩]) entries result) :
      Walks source (n + 1) dir ancestry resolved (entry :: entries) result

section Entry

variable {source : PresetSource}
  {expandBases : HostPath → List PresetKey → List ResolvedPreset → List String →
    Except ConfigError (List ResolvedPreset)}
  {dir : HostPath} {ancestry : List PresetKey} {resolved : List ResolvedPreset} {entry : String}
  {key : PresetKey}

theorem expandEntry_unread {error : ConfigError}
    (hkey : PresetKey.parse entry dir (originOf ancestry) = .error error) :
    source.expandEntry expandBases dir ancestry resolved entry = .error error := by
  simp [expandEntry, hkey, bind, Except.bind]

theorem expandEntry_cycle (hkey : PresetKey.parse entry dir (originOf ancestry) = .ok key)
    (hpath : ∃ a ∈ ancestry, a.same key = true) :
    source.expandEntry expandBases dir ancestry resolved entry =
      .error (.cycle (cycleOf ancestry key)) := by
  simp [expandEntry, hkey, hpath, bind, Except.bind, throw, throwThe, MonadExceptOf.throw]

theorem expandEntry_pass (hkey : PresetKey.parse entry dir (originOf ancestry) = .ok key)
    (hpath : ∀ a ∈ ancestry, a.same key = false)
    (hseen : ∃ preset ∈ resolved, preset.key.same key = true) :
    source.expandEntry expandBases dir ancestry resolved entry = .ok resolved := by
  have hoff : ¬∃ a ∈ ancestry, a.same key = true := by simpa using hpath
  simp [expandEntry, hkey, hoff, hseen, bind, Except.bind, pure, Except.pure]

/-- A key that is new is loaded, and stands after all that its document adds. -/
theorem expandEntry_new (hkey : PresetKey.parse entry dir (originOf ancestry) = .ok key)
    (hpath : ∀ a ∈ ancestry, a.same key = false)
    (hnew : ∀ preset ∈ resolved, preset.key.same key = false) :
    source.expandEntry expandBases dir ancestry resolved entry =
      (source.load key (originOf ancestry)).bind fun document =>
        (expandBases (key.dir?.getD dir) (ancestry ++ [key]) resolved document.bases).map
          (· ++ [⟨key, document⟩]) := by
  have hoff : ¬∃ a ∈ ancestry, a.same key = true := by simpa using hpath
  have hfresh : ¬∃ preset ∈ resolved, preset.key.same key = true := by simpa using hnew
  simp [expandEntry, hkey, hoff, hfresh, bind, Except.bind, pure, Except.pure, Except.map]

end Entry

theorem expand_cons (source : PresetSource) (n : ℕ) (dir : HostPath) (ancestry : List PresetKey)
    (resolved : List ResolvedPreset) (entry : String) (entries : List String) :
    source.expand (n + 1) dir ancestry resolved (entry :: entries) =
      (source.expandEntry (source.expand n) dir ancestry resolved entry).bind fun next =>
        source.expand (n + 1) dir ancestry next entries := by
  rw [expand, List.foldlM_cons]
  rfl

/-- A walk that ends is what `expand` computes, once it may go that deep. -/
theorem Walks.expand_eq {source : PresetSource} {n m : ℕ} {dir : HostPath}
    {ancestry : List PresetKey} {resolved : List ResolvedPreset} {entries : List String}
    {result : Except ConfigError (List ResolvedPreset)}
    (h : source.Walks n dir ancestry resolved entries result) (hnm : n ≤ m) :
    source.expand m dir ancestry resolved entries = result := by
  induction m generalizing n dir ancestry resolved entries result with
  | zero => cases h <;> simp at hnm
  | succ m ihdepth =>
    induction h with
    | done => rfl
    | unread hkey => rw [expand_cons, expandEntry_unread hkey, Except.bind]
    | cycle hkey hpath => rw [expand_cons, expandEntry_cycle hkey hpath, Except.bind]
    | pass hkey hpath hseen _ ih =>
      rw [expand_cons, expandEntry_pass hkey hpath hseen]
      exact ih hnm
    | missing hkey hpath hnew hload =>
      rw [expand_cons, expandEntry_new hkey hpath hnew, hload]
      rfl
    | failing hkey hpath hnew hload hbases =>
      rw [expand_cons, expandEntry_new hkey hpath hnew, hload, Except.bind,
        ihdepth hbases (Nat.le_of_succ_le_succ hnm)]
      rfl
    | visit hkey hpath hnew hload hbases _ _ ih =>
      rw [expand_cons, expandEntry_new hkey hpath hnew, hload, Except.bind,
        ihdepth hbases (Nat.le_of_succ_le_succ hnm)]
      exact ih hnm

/-- The keys that the walk may still load. -/
def unvisited (source : PresetSource) (ancestry : List PresetKey) : Set PresetKey :=
  {key | source.Loadable key ∧ ∀ a ∈ ancestry, a.same key = false}

theorem unvisited_concat_ssubset {source : PresetSource} {ancestry : List PresetKey}
    {key : PresetKey} (h : key ∈ source.unvisited ancestry) :
    source.unvisited (ancestry ++ [key]) ⊂ source.unvisited ancestry := by
  refine ⟨fun k hk => ⟨hk.1, fun a ha => hk.2 a (List.mem_append_left _ ha)⟩, fun hsub => ?_⟩
  have hself := (hsub h).2 key (by simp)
  simp at hself

/-- The walk ends, and its depth is bounded by the number of keys that are left to load. -/
theorem walks_expand {source : PresetSource} (hfinite : {key | source.Loadable key}.Finite)
    {n : ℕ} {dir : HostPath} {ancestry : List PresetKey} {resolved : List ResolvedPreset}
    {entries : List String} (hdepth : (source.unvisited ancestry).ncard < n) :
    source.Walks n dir ancestry resolved entries
      (source.expand n dir ancestry resolved entries) := by
  induction n generalizing dir ancestry resolved entries with
  | zero => simp at hdepth
  | succ n ih =>
    induction entries generalizing resolved with
    | nil => exact .done
    | cons entry entries ihentries =>
      rw [expand_cons]
      cases hkey : PresetKey.parse entry dir (originOf ancestry) with
      | error e =>
        rw [expandEntry_unread hkey]
        exact .unread hkey
      | ok key =>
        by_cases hpath : ∃ a ∈ ancestry, a.same key = true
        · rw [expandEntry_cycle hkey hpath]
          exact .cycle hkey hpath
        have hoff : ∀ a ∈ ancestry, a.same key = false := by simpa using hpath
        by_cases hseen : ∃ preset ∈ resolved, preset.key.same key = true
        · rw [expandEntry_pass hkey hoff hseen]
          exact .pass hkey hoff hseen ihentries
        have hnew : ∀ preset ∈ resolved, preset.key.same key = false := by simpa using hseen
        rw [expandEntry_new hkey hoff hnew]
        cases hload : source.load key (originOf ancestry) with
        | error e => exact .missing hkey hoff hnew hload
        | ok document =>
          have hfree : key ∈ source.unvisited ancestry :=
            ⟨⟨PresetKey.parse_normal hkey, document, _, hload⟩, hoff⟩
          have hfewer : (source.unvisited (ancestry ++ [key])).ncard < n := by
            have hlt := Set.ncard_lt_ncard (unvisited_concat_ssubset hfree)
              (hfinite.subset fun k hk => hk.1)
            omega
          have hbases : source.Walks n (key.dir?.getD dir) (ancestry ++ [key]) resolved
              document.bases (source.expand n (key.dir?.getD dir) (ancestry ++ [key]) resolved
                document.bases) := ih hfewer
          cases hresult : source.expand n (key.dir?.getD dir) (ancestry ++ [key]) resolved
              document.bases with
          | error e =>
            rw [hresult] at hbases
            simpa [Except.bind, Except.map, hresult] using .failing hkey hoff hnew hload hbases
          | ok between =>
            rw [hresult] at hbases
            simpa [Except.bind, Except.map, hresult] using
              .visit hkey hoff hnew hload hbases ihentries

/-- All that entries lead to can be read, and loaded unless it is on the way to them. -/
structure Resolvable (source : PresetSource) (dir : HostPath) (ancestry : List PresetKey)
    (entries : List String) : Prop where
  parses : ∀ entry ∈ entries, PresetKey.Parses entry
  loads : ∀ key, source.Reachable dir entries key → (∀ a ∈ ancestry, a.same key = false) →
    ∃ document, source.Loads key document
  bases : ∀ key document, source.Reachable dir entries key → source.Loads key document →
    ∀ entry ∈ document.bases, PresetKey.Parses entry

theorem Resolvable.tail {source : PresetSource} {dir : HostPath} {ancestry : List PresetKey}
    {entry : String} {entries : List String}
    (h : source.Resolvable dir ancestry (entry :: entries)) :
    source.Resolvable dir ancestry entries where
  parses e he := h.parses e (List.mem_cons_of_mem _ he)
  loads key hkey := h.loads key hkey.of_cons
  bases key document hkey := h.bases key document hkey.of_cons

/-- What the entries of a preset lead to, those that name the preset lead to as well. -/
theorem Reachable.of_bases {source : PresetSource} {dir : HostPath} {entries : List String}
    {key base : PresetKey} {document : Document} (hkey : Names dir entries key)
    (hload : source.Loads key document)
    (hbase : source.Reachable (key.dir?.getD dir) document.bases base) :
    source.Reachable dir entries base := by
  obtain ⟨first, hfirst, hpath⟩ := hbase
  have hedge : source.Extends key first := ⟨document, dir, hload, hfirst⟩
  exact ⟨key, hkey, .head hedge hpath⟩

theorem Resolvable.below {source : PresetSource} {dir : HostPath} {ancestry : List PresetKey}
    {entries : List String} {key : PresetKey} {document : Document}
    (h : source.Resolvable dir ancestry entries) (hkey : Names dir entries key)
    (hload : source.Loads key document) :
    source.Resolvable (key.dir?.getD dir) (ancestry ++ [key]) document.bases where
  parses := h.bases key document ⟨key, hkey, .refl⟩ hload
  loads base hbase hoff :=
    h.loads base (.of_bases hkey hload hbase) fun a ha => hoff a (List.mem_append_left _ ha)
  bases base baseDocument hbase := h.bases base baseDocument (.of_bases hkey hload hbase)

/-- Entries of a document in `dir` lead to the first key of `path`, and from each key of it to the
next one. -/
structure LeadsAlong (source : PresetSource) (dir : HostPath) (entries : List String)
    (path : List PresetKey) : Prop where
  first : ∀ key ∈ path.head?, Names dir entries key
  chain : path.IsChain source.Extends

theorem LeadsAlong.of_cons {source : PresetSource} {dir : HostPath} {entry : String}
    {entries : List String} {path : List PresetKey} (h : source.LeadsAlong dir entries path) :
    source.LeadsAlong dir (entry :: entries) path where
  first key hkey := by
    obtain ⟨e, he, origin, hparse⟩ := h.first key hkey
    exact ⟨e, List.mem_cons_of_mem _ he, origin, hparse⟩
  chain := h.chain

theorem LeadsAlong.reachable {source : PresetSource} {dir : HostPath} {entries : List String}
    {path : List PresetKey} (h : source.LeadsAlong dir entries path) {key : PresetKey}
    (hkey : key ∈ path) : source.Reachable dir entries key := by
  obtain ⟨before, after, rfl⟩ := List.append_of_mem hkey
  have hchain : (before ++ [key]).IsChain source.Extends :=
    h.chain.prefix ⟨after, by simp⟩
  have hpath := List.relationReflTransGen_of_exists_isChain _ hchain (by simp)
  rw [List.getLast_concat] at hpath
  refine ⟨(before ++ [key]).head (by simp), h.first _ ?_, hpath⟩
  cases before <;> simp

theorem LeadsAlong.normal {source : PresetSource} {dir : HostPath} {entries : List String}
    {path : List PresetKey} (h : source.LeadsAlong dir entries path) {key : PresetKey}
    (hkey : key ∈ path) : key.Normal := by
  obtain ⟨first, ⟨_, _, _, hfirst⟩, hpath⟩ := h.reachable hkey
  rcases hpath.cases_tail with rfl | ⟨_, -, _, _, -, _, _, _, hparse⟩
  · exact PresetKey.parse_normal hfirst
  · exact PresetKey.parse_normal hparse

/-- Where all can be loaded, a walk that fails has come back to a key on its own way. -/
theorem Walks.error_cycle {source : PresetSource} {n : ℕ} {dir : HostPath}
    {ancestry : List PresetKey} {resolved : List ResolvedPreset} {entries : List String}
    {error : ConfigError} (h : source.Walks n dir ancestry resolved entries (.error error))
    (hresolvable : source.Resolvable dir ancestry entries) :
    ∃ way key, source.LeadsAlong dir entries (way ++ [key]) ∧
      (∃ a ∈ ancestry ++ way, a.same key = true) ∧
      error = .cycle (cycleOf (ancestry ++ way) key) := by
  generalize hresult : Except.error error = result at h
  induction h with
  | done => cases hresult
  | @unread _ dir _ _ entry entries _ hkey =>
    obtain ⟨key, hparse⟩ := (hresolvable.parses entry (by simp)).parse_ok dir _
    rw [hkey] at hparse
    cases hparse
  | @cycle _ dir ancestry _ entry entries key hkey hpath =>
    obtain rfl := Except.error.inj hresult
    refine ⟨[], key, ⟨?_, List.isChain_singleton key⟩, by simpa using hpath, by simp⟩
    simpa using ⟨entry, by simp, _, hkey⟩
  | pass _ _ _ _ ih =>
    obtain ⟨way, key, hleads, hback, herror⟩ := ih hresolvable.tail hresult
    exact ⟨way, key, hleads.of_cons, hback, herror⟩
  | @missing _ dir ancestry _ entry entries key _ hkey hpath _ hload =>
    obtain ⟨document, origin, hok⟩ :=
      hresolvable.loads key ⟨key, ⟨entry, by simp, _, hkey⟩, .refl⟩ hpath
    rw [source.load_ok hok] at hload
    cases hload
  | @failing _ dir ancestry _ entry entries key document _ hkey _ _ hload _ ih =>
    have hnamed : Names dir (entry :: entries) key := ⟨entry, by simp, _, hkey⟩
    obtain ⟨way, last, hleads, hback, herror⟩ :=
      ih (hresolvable.below hnamed ⟨_, hload⟩) hresult
    refine ⟨key :: way, last, ⟨by simpa using hnamed, ?_⟩, by simpa using hback,
      by simpa using herror⟩
    refine List.isChain_cons.mpr ⟨fun next hnext => ?_, hleads.chain⟩
    exact ⟨document, dir, ⟨_, hload⟩, hleads.first next hnext⟩
  | visit _ _ _ _ _ _ _ ih =>
    obtain ⟨way, key, hleads, hback, herror⟩ := ih hresolvable.tail hresult
    exact ⟨way, key, hleads.of_cons, hback, herror⟩

/-- What extends what, as `edge` has it: presets extend what they extend in the source, and the last
key of `ancestry` is that of the document in `dir` with these entries. The keys of `ancestry` extend
one another. -/
structure Lineage (source : PresetSource) (edge : PresetKey → PresetKey → Prop) (dir : HostPath)
    (entries : List String) (ancestry : List PresetKey) : Prop where
  presets : ∀ key base, source.Extends key base → edge key base
  declared : ∀ last ∈ ancestry.getLast?, ∀ base, Names dir entries base → edge last base
  chain : ancestry.IsChain edge

/-- A way along edges that ends where it starts. -/
structure IsCycle (edge : PresetKey → PresetKey → Prop) (keys : List PresetKey) : Prop where
  two_le : 2 ≤ keys.length
  closed : ∃ first ∈ keys.head?, ∃ last ∈ keys.getLast?, first.same last = true
  chain : keys.IsChain edge

theorem isCycle_of_back {edge : PresetKey → PresetKey → Prop} {path : List PresetKey}
    {key : PresetKey} (hchain : (path ++ [key]).IsChain edge)
    (hback : ∃ a ∈ path, a.same key = true) :
    IsCycle edge (path.dropWhile (!·.same key) ++ [key]) := by
  obtain ⟨a, ha⟩ : ∃ a, path.find? (·.same key) = some a :=
    Option.isSome_iff_exists.mp (List.find?_isSome.mpr hback)
  obtain ⟨rest, hrest⟩ : ∃ rest, path.dropWhile (!·.same key) = a :: rest := by
    rw [List.find?_eq_head?_dropWhile_not] at ha
    exact List.head?_eq_some_iff.mp ha
  rw [hrest]
  refine ⟨by simp, ⟨a, by simp, key, List.getLast?_concat, ?_⟩, ?_⟩
  · simpa using List.find?_some ha
  · have hsuffix : (a :: rest) ++ [key] <:+ path ++ [key] := by
      obtain ⟨before, hbefore⟩ := List.dropWhile_suffix (!·.same key) (l := path)
      exact ⟨before, by rw [← hbefore, hrest, List.append_assoc]⟩
    exact hchain.suffix hsuffix

theorem transGen_of_back {edge : PresetKey → PresetKey → Prop} {way : List PresetKey}
    {key : PresetKey} (hchain : (way ++ [key]).IsChain edge) (hback : key ∈ way) :
    Relation.TransGen edge key key := by
  obtain ⟨before, after, rfl⟩ := List.append_of_mem hback
  have hround : (key :: (after ++ [key])).IsChain edge :=
    hchain.suffix ⟨before, by simp⟩
  obtain ⟨hfirst, hrest⟩ := List.isChain_cons.mp hround
  have hpath := List.relationReflTransGen_of_exists_isChain _ hrest (by simp)
  rw [List.getLast_concat] at hpath
  exact .head' (hfirst _ (List.head?_eq_some_head _)) hpath

theorem Ordered.acyclic {source : PresetSource} {resolved : List ResolvedPreset}
    (h : source.Ordered resolved) {preset : ResolvedPreset} (hmem : preset ∈ resolved) :
    ¬Relation.TransGen source.Extends preset.key preset.key := by
  intro hround
  obtain ⟨i, hi, rfl⟩ := List.getElem_of_mem hmem
  obtain ⟨j, hj, hkey⟩ := h.before hi hround
  have hdistinct := List.pairwise_iff_getElem.mp h.distinct j i (by omega) hi hj
  simp [hkey] at hdistinct

section Resolve

variable {source : PresetSource} {dir : HostPath} {entries : List String}
  {ancestry : List PresetKey}

theorem walks_resolve (hbounded : source.Bounded) :
    source.Walks ({key | source.Loadable key}.ncard + 1) dir ancestry [] entries
      (source.resolve entries dir ancestry) := by
  have hdepth : (source.unvisited ancestry).ncard < {key | source.Loadable key}.ncard + 1 :=
    Nat.lt_succ_of_le (Set.ncard_le_ncard (fun key hkey => hkey.1) hbounded.finite)
  have h : source.Walks ({key | source.Loadable key}.ncard + 1) dir ancestry [] entries
      (source.expand ({key | source.Loadable key}.ncard + 1) dir ancestry [] entries) :=
    walks_expand hbounded.finite hdepth
  have heq := h.expand_eq (Nat.succ_le_succ hbounded.card_le)
  rwa [← heq] at h

/-- Nothing that is reached from entries that resolve extends itself in the end. -/
theorem acyclic_of_resolve {resolved : List ResolvedPreset} (hsource : source.SelfContained)
    (h : source.resolve entries dir ancestry = .ok resolved) {key : PresetKey}
    (hkey : source.Reachable dir entries key) :
    ¬Relation.TransGen source.Extends key key ∧ ∀ a ∈ ancestry, a.same key = false := by
  obtain ⟨preset, hmem, rfl⟩ := List.mem_map.mp ((mem_keys_resolve_iff hsource h key).mpr hkey)
  exact ⟨(ordered_of_resolve hsource h).acyclic hmem, off_ancestry_of_resolve h hmem⟩

variable (hbounded : source.Bounded) (hresolvable : source.Resolvable dir ancestry entries)
include hbounded hresolvable

theorem error_of_resolve {error : ConfigError}
    (herror : source.resolve entries dir ancestry = .error error) :
    ∃ way key, source.LeadsAlong dir entries (way ++ [key]) ∧
      (∃ a ∈ ancestry ++ way, a.same key = true) ∧
      error = .cycle (cycleOf (ancestry ++ way) key) := by
  have hwalk : source.Walks ({key | source.Loadable key}.ncard + 1) dir ancestry [] entries
      (source.resolve entries dir ancestry) := walks_resolve hbounded
  rw [herror] at hwalk
  exact hwalk.error_cycle hresolvable

theorem resolve_ok_of_acyclic
    (hacyclic : ∀ key, source.Reachable dir entries key →
      ¬Relation.TransGen source.Extends key key ∧ ∀ a ∈ ancestry, a.same key = false) :
    ∃ resolved, source.resolve entries dir ancestry = .ok resolved := by
  cases h : source.resolve entries dir ancestry with
  | ok resolved => exact ⟨resolved, rfl⟩
  | error error =>
    obtain ⟨way, key, hleads, ⟨a, ha, hsame⟩, -⟩ := error_of_resolve hbounded hresolvable h
    obtain ⟨hround, hoff⟩ := hacyclic key (hleads.reachable (by simp))
    rcases List.mem_append.mp ha with ha | ha
    · simp [hoff a ha] at hsame
    · have hkey : a = key :=
        ((hleads.normal (by simp [ha])).same_iff (hleads.normal (by simp))).mp hsame
      exact absurd (transGen_of_back hleads.chain (hkey ▸ ha)) hround

/-- Entries resolve just when nothing that is reached from them extends itself in the end or stands in
the ancestry. -/
theorem exists_resolve_iff (hsource : source.SelfContained) :
    (∃ resolved, source.resolve entries dir ancestry = .ok resolved) ↔
      ∀ key, source.Reachable dir entries key →
        ¬Relation.TransGen source.Extends key key ∧ ∀ a ∈ ancestry, a.same key = false := by
  refine ⟨?_, resolve_ok_of_acyclic hbounded hresolvable⟩
  rintro ⟨resolved, h⟩ key hkey
  exact acyclic_of_resolve hsource h hkey

theorem isCycle_of_resolve {edge : PresetKey → PresetKey → Prop}
    (hlineage : source.Lineage edge dir entries ancestry) {error : ConfigError}
    (herror : source.resolve entries dir ancestry = .error error) :
    ∃ keys : List PresetKey, error = .cycle (keys.map PresetKey.display) ∧ IsCycle edge keys := by
  obtain ⟨way, key, hleads, hback, rfl⟩ := error_of_resolve hbounded hresolvable herror
  refine ⟨_, rfl, isCycle_of_back ?_ hback⟩
  rw [List.append_assoc]
  refine hlineage.chain.append (hleads.chain.imp fun a b => hlineage.presets a b) ?_
  intro last hlast first hfirst
  exact hlineage.declared last hlast first (hleads.first first hfirst)

end Resolve

/-- The walk over presets ends, no deeper than there are keys to load and one more. Where all that
is come to can be loaded it succeeds just when nothing reachable extends itself in the end or
stands in the ancestry, and when it fails it shows a cycle. -/
theorem resolve_ok_iff_acyclic {source : PresetSource} {edge : PresetKey → PresetKey → Prop}
    {dir : HostPath} {entries : List String} {ancestry : List PresetKey}
    (hsource : source.SelfContained) (hbounded : source.Bounded)
    (hlineage : source.Lineage edge dir entries ancestry) :
    source.Walks ({key | source.Loadable key}.ncard + 1) dir ancestry [] entries
      (source.resolve entries dir ancestry) ∧
    (source.Resolvable dir ancestry entries →
      ((∃ resolved, source.resolve entries dir ancestry = .ok resolved) ↔
        ∀ key, source.Reachable dir entries key →
          ¬Relation.TransGen source.Extends key key ∧ ∀ a ∈ ancestry, a.same key = false) ∧
      ∀ error, source.resolve entries dir ancestry = .error error →
        ∃ keys : List PresetKey, error = .cycle (keys.map PresetKey.display) ∧
          IsCycle edge keys) := by
  refine ⟨walks_resolve hbounded, fun hresolvable => ?_⟩
  exact ⟨exists_resolve_iff hbounded hresolvable hsource,
    fun _ => isCycle_of_resolve hbounded hresolvable hlineage⟩

attribute [local instance] Explanations.brief

/-- A preset that extends the document of the project. -/
def backward : PresetSource := ofTexts [
  ("/p/presets/team.json", .json, "\x7b\"extends\": [\"../struct-lint.json\"]\x7d")]

/-- The project's own document in `/p`, which the source does not have, extends that preset. -/
def backwardEdge (key base : PresetKey) : Prop :=
  backward.Extends key base ∨
    key = .file ⟨"/p/struct-lint.json"⟩ ∧ Names ⟨"/p"⟩ ["./presets/team.json"] base

theorem backward_loads {key : PresetKey} {document : Document}
    (h : backward.Loads key document) (hkey : ∀ name, key ≠ .builtin name) :
    key = .file ⟨"/p/presets/team.json"⟩ ∧ document.bases = ["../struct-lint.json"] := by
  have hbases : (backward.load (.file ⟨"/p/presets/team.json"⟩) "").toOption.map Document.bases =
      some ["../struct-lint.json"] := by
    decide +kernel
  obtain ⟨origin, hload⟩ := h
  have hself := hload
  simp only [backward, ofTexts] at hload
  split at hload
  · rename_i format text hfound
    have hmem := Ascending.mem_of_find? hfound
    cases key with
    | builtin name => exact absurd rfl (hkey name)
    | file path =>
      obtain ⟨htext, -⟩ : path.text = "/p/presets/team.json" ∧ _ := by
        simpa [PresetKey.display] using hmem
      obtain rfl : path = ⟨"/p/presets/team.json"⟩ := by cases path; simpa using htext
      rw [backward.load_ok hself] at hbases
      exact ⟨rfl, by simpa [Except.toOption] using hbases⟩
  · cases key with
    | builtin name => exact absurd rfl (hkey name)
    | file path => cases hload

theorem backward_parse_team : PresetKey.parse "./presets/team.json" ⟨"/p"⟩ "" =
    .ok (.file ⟨"/p/presets/team.json"⟩) := by
  decide +kernel

theorem backward_extends {key base : PresetKey} (hkey : ∀ name, key ≠ .builtin name)
    (h : backward.Extends key base) :
    key = .file ⟨"/p/presets/team.json"⟩ ∧ base = .file ⟨"/p/struct-lint.json"⟩ := by
  obtain ⟨document, referrer, hload, hbase⟩ := h
  obtain ⟨rfl, hbases⟩ := backward_loads hload hkey
  have hparse : PresetKey.parse "../struct-lint.json" ⟨"/p/presets"⟩ "" =
      .ok (.file ⟨"/p/struct-lint.json"⟩) := by
    decide +kernel
  have hdir : (PresetKey.file ⟨"/p/presets/team.json"⟩).dir? = some ⟨"/p/presets"⟩ := by
    decide +kernel
  rw [hdir, Option.getD_some, hbases, names_cons_iff hparse] at hbase
  exact ⟨rfl, hbase.resolve_right names_nil⟩

theorem backward_reachable {key : PresetKey}
    (h : backward.Reachable ⟨"/p"⟩ ["./presets/team.json"] key) :
    key = .file ⟨"/p/presets/team.json"⟩ ∨ key = .file ⟨"/p/struct-lint.json"⟩ := by
  obtain ⟨first, hfirst, hpath⟩ := h
  have hteam : first = .file ⟨"/p/presets/team.json"⟩ :=
    ((names_cons_iff backward_parse_team).mp hfirst).resolve_right names_nil
  subst hteam
  induction hpath with
  | refl => exact Or.inl rfl
  | tail _ hedge ih =>
    rcases ih with rfl | rfl <;> exact Or.inr (backward_extends (by simp) hedge).2

theorem backward_resolvable : backward.Resolvable ⟨"/p"⟩ [.file ⟨"/p/struct-lint.json"⟩]
    ["./presets/team.json"] where
  parses entry hentry := by
    obtain rfl := List.mem_singleton.mp hentry
    exact ⟨_, _, _, backward_parse_team⟩
  loads key hkey hoff := by
    rcases backward_reachable hkey with rfl | rfl
    · have hload : (backward.load (.file ⟨"/p/presets/team.json"⟩) "").isOk = true := by
        decide +kernel
      cases h : backward.load (.file ⟨"/p/presets/team.json"⟩) "" with
      | ok document => exact ⟨document, "", h⟩
      | error e => simp [h, Except.isOk, Except.toBool] at hload
    · simpa using hoff _ (List.mem_singleton_self _)
  bases key document hkey hload entry hentry := by
    have hfile : ∀ name, key ≠ .builtin name := by
      rcases backward_reachable hkey with rfl | rfl <;> simp
    rw [(backward_loads hload hfile).2] at hentry
    obtain rfl := List.mem_singleton.mp hentry
    exact ⟨⟨""⟩, "", .file ⟨"../struct-lint.json"⟩, by decide +kernel⟩

theorem backward_lineage : backward.Lineage backwardEdge ⟨"/p"⟩ ["./presets/team.json"]
    [.file ⟨"/p/struct-lint.json"⟩] where
  presets _ _ h := Or.inl h
  declared last hlast base hbase := by
    obtain rfl : PresetKey.file ⟨"/p/struct-lint.json"⟩ = last := by simpa using hlast
    exact Or.inr ⟨rfl, hbase⟩
  chain := List.isChain_singleton _

/-- The way leads from the project's document to the preset and back. -/
theorem resolve_ok_iff_acyclic_backward :
    backward.SelfContained ∧ backward.Bounded ∧
    backward.Lineage backwardEdge ⟨"/p"⟩ ["./presets/team.json"] [.file ⟨"/p/struct-lint.json"⟩] ∧
    backward.Resolvable ⟨"/p"⟩ [.file ⟨"/p/struct-lint.json"⟩] ["./presets/team.json"] ∧
    ∃ keys : List PresetKey,
      backward.resolve ["./presets/team.json"] ⟨"/p"⟩ [.file ⟨"/p/struct-lint.json"⟩] =
        .error (.cycle (keys.map PresetKey.display)) ∧ IsCycle backwardEdge keys := by
  have hsource : backward.SelfContained := selfContained_ofTexts (by decide +kernel)
  have hbounded : backward.Bounded := bounded_ofTexts _
  refine ⟨hsource, hbounded, backward_lineage, backward_resolvable, ?_⟩
  obtain ⟨-, hends⟩ := resolve_ok_iff_acyclic hsource hbounded backward_lineage
  obtain ⟨hiff, hcycle⟩ := hends backward_resolvable
  cases h : backward.resolve ["./presets/team.json"] ⟨"/p"⟩ [.file ⟨"/p/struct-lint.json"⟩] with
  | ok resolved =>
    have hback : (backward.resolve ["./presets/team.json"] ⟨"/p"⟩
        [.file ⟨"/p/struct-lint.json"⟩]).isOk = false := by
      decide +kernel
    simp [h, Except.isOk, Except.toBool] at hback
  | error error =>
    obtain ⟨keys, rfl, hkeys⟩ := hcycle error h
    exact ⟨keys, rfl, hkeys⟩

end PresetSource
end TreeLint
