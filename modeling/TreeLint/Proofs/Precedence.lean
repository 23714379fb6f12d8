import TreeLint.Config.Effective
import TreeLint.Proofs.Merged
import TreeLint.Proofs.Placed

/-!
Whose word stands in a configuration: that of the project's own document first, then that of a
preset that no other preset overrides, and that of the defaults last.
-/
namespace TreeLint

/-- What documents can set, each thing on its own. -/
inductive Setting
  | version
  | included
  | excluded
  | tool (key : String)
  | integration (key : String)
  | rule (id : String) (named : id ≠ "")

namespace Setting

/-- What a setting can be set to. -/
abbrev Content : Setting → Type
  | version => Nat
  | included => List String
  | excluded => List String
  | tool _ => Value
  | integration _ => Value
  | rule _ _ => OriginRule

/-- What a document, with the name it goes by, says about a setting. -/
def said : (s : Setting) → Document × String → Option s.Content
  | version, d => d.1.version
  | included, d => d.1.included
  | excluded, d => d.1.excluded
  | tool key, d => d.1.tool? key
  | integration key, d => d.1.integration? key
  | rule id _, d => (d.1.customRules.reverse.find? (·.id = id)).map (OriginRule.mk · d.2)

end Setting

namespace ConfigSource

/-- The document that the way to all presets starts from. -/
def ancestry (source : ConfigSource) : List PresetKey :=
  source.path?.toList.map fun path => .file path.normalize

/-- The directory of the project's own document. -/
def dir (source : ConfigSource) (root : HostPath) : HostPath :=
  (source.path?.map fun path => path.parent?.getD root).getD root

/-- The name of the project's own document. -/
def origin (source : ConfigSource) (root : HostPath) : String :=
  (source.path?.map fun path => NamedDocument.originOf path root).getD Configuration.textName

def file? (source : ConfigSource) (root : HostPath) : Option ProjectPath :=
  source.path?.bind (ProjectPath.ofFile? · root)

end ConfigSource

/-- The name of a preset in a configuration. -/
def ResolvedPreset.origin (preset : ResolvedPreset) (root : HostPath) : String :=
  (NamedDocument.ofPreset root none preset).origin

/-- A preset of a chain as the configuration has it. -/
def PlacedPreset.named (p : PlacedPreset) (root : HostPath) : Document × String :=
  (p.document, p.origin root)

theorem NamedDocument.ofPreset_origin (root : HostPath) (file : Option ProjectPath)
    (preset : ResolvedPreset) : (ofPreset root file preset).origin = preset.origin root := by
  cases hkey : preset.key <;> simp [ofPreset, ResolvedPreset.origin, hkey]

theorem NamedDocument.ofPreset_document (root : HostPath) (file : Option ProjectPath)
    (preset : ResolvedPreset) : (ofPreset root file preset).document = preset.document := by
  cases hkey : preset.key <;> simp [ofPreset, hkey]

namespace Configuration

/-- A configuration has what was said about a setting, or what holds where nothing was said. -/
def Has [Explanations] (c : Configuration) : (s : Setting) → Option s.Content → Prop
  | .version, said => c.version = said.getD 0
  | .included, said => readIncluded (said.getD []) = .ok c.included
  | .excluded, said => c.excluded = said.getD [] ∧ readExcluded (said.getD []) = .ok c.ignore
  | .tool key, said => Ascending.find? key c.tools = said
  | .integration key, said => Ascending.find? key c.integrations = said
  | .rule id _, said => ∃ file, c.rules.filter (·.document.id = id) =
      (said.filter fun r => !r.rule.disabled).toList.map fun r => .ofDocument r.rule r.origin file

/-- What is read of documents that make a configuration, and what is kept as it is. -/
theorem ofMerged_ok [Explanations] {m : Merged} {named : List NamedDocument} {presets : List String}
    {source : ConfigSource} {c : Configuration} (h : ofMerged m named presets source = .ok c) :
    ∃ included ignore, readIncluded m.included = .ok included ∧
      readExcluded m.excluded = .ok ignore ∧
      c = ⟨m.version, included, m.excluded, ignore, m.tools, m.integrations,
        m.rules.map fun r => .ofDocument r.rule r.origin (NamedDocument.fileOf named r.origin),
        source, presets⟩ := by
  obtain ⟨included, hincluded, h⟩ := bind_ok_iff.mp h
  obtain ⟨ignore, hexcluded, h⟩ := bind_ok_iff.mp h
  exact ⟨included, ignore, hincluded, hexcluded, (Except.ok.inj h).symm⟩

/-- Of some documents, the last that says anything about a setting is heard. -/
theorem ofMerged_has [Explanations] {documents : List (Document × String)}
    {named : List NamedDocument} {presets : List String} {source : ConfigSource} {c : Configuration}
    (h : ofMerged (Merged.ofDocuments documents) named presets source = .ok c) (s : Setting) :
    c.Has s (documents.reverse.findSome? s.said) := by
  obtain ⟨included, ignore, hincluded, hexcluded, rfl⟩ := ofMerged_ok h
  rw [Merged.ofDocuments_included] at hincluded
  rw [Merged.ofDocuments_excluded] at hexcluded
  cases s with
  | version => exact Merged.ofDocuments_version documents
  | included => exact hincluded
  | excluded => exact ⟨Merged.ofDocuments_excluded documents, hexcluded⟩
  | tool key => exact Merged.find?_ofDocuments_tools documents key
  | integration key => exact Merged.find?_ofDocuments_integrations documents key
  | rule id hid =>
    let kept : Option OriginRule := (documents.reverse.findSome?
      (Setting.rule id hid).said).filter fun r => !r.rule.disabled
    have hkept : (Merged.ofDocuments documents).rules.filter (·.rule.id = id) = kept.toList :=
      Merged.filter_id_ofDocuments documents hid
    refine ⟨kept.bind fun r => NamedDocument.fileOf named r.origin, ?_⟩
    rw [List.filter_map]
    refine (congrArg _ hkept).trans ?_
    cases hcase : kept <;> simp [kept, hcase]

theorem ownDocuments_eq (root : HostPath) (source : ConfigSource) (document : Document)
    (presets : PresetSource) : ownDocuments root source document presets =
      (presets.resolve document.bases (source.dir root) source.ancestry).map fun chain =>
        (chain.map (NamedDocument.ofPreset root (source.file? root)),
          ⟨document, source.origin root, source.file? root⟩) := by
  unfold ownDocuments ConfigSource.dir ConfigSource.ancestry ConfigSource.origin ConfigSource.file?
  cases source.path? with
  | none => cases presets.resolve document.bases root [] <;> rfl
  | some path =>
    cases presets.resolve document.bases (path.parent?.getD root) [.file path.normalize] <;> rfl

/-- The documents that rules may come from: the presets, and the project's own document last. -/
def namedDocuments (root : HostPath) (source : ConfigSource) (document : Document)
    (chain : List ResolvedPreset) : List NamedDocument :=
  chain.map (NamedDocument.ofPreset root (source.file? root)) ++
    [⟨document, source.origin root, source.file? root⟩]

/-- What a configuration is made of, once the presets are resolved. -/
theorem ofMerged_of_build [Explanations] {root : HostPath} {source : ConfigSource}
    {document : Document} {presets : PresetSource} {c : Configuration}
    (h : build root source (some document) presets = .ok c) :
    ∃ chain, presets.resolve document.bases (source.dir root) source.ancestry = .ok chain ∧
      ofMerged (Merged.ofDocuments ((Preset.defaults, defaultsName) ::
          (namedDocuments root source document chain).map fun n => (n.document, n.origin)))
        (namedDocuments root source document chain)
        ((chain.map (NamedDocument.ofPreset root (source.file? root))).map (·.origin)) source =
          .ok c := by
  unfold build at h
  simp only [ownDocuments_eq] at h
  cases hresolve : presets.resolve document.bases (source.dir root) source.ancestry with
  | error e => simp [hresolve, Except.map, bind, Except.bind] at h
  | ok chain =>
    simp only [hresolve, Except.map, bind, Except.bind, pure, Except.pure] at h
    exact ⟨chain, rfl, h⟩

theorem findSome?_reverse_between {α β : Type} (f : α → Option β) (first last : α) (xs : List α) :
    (first :: xs ++ [last]).reverse.findSome? f =
      (f last).or ((xs.reverse.findSome? f).or (f first)) := by
  have hone : ∀ x, [x].findSome? f = f x := by
    intro x
    rw [List.findSome?_cons]
    cases f x <;> rfl
  rw [List.reverse_append, List.reverse_singleton, List.reverse_cons, List.findSome?_append,
    List.findSome?_append, hone, hone]

/-- The own document is asked first, then the presets from the last to the first, and the defaults
in the end. -/
theorem build_ok [Explanations] {root : HostPath} {source : ConfigSource} {document : Document}
    {presets : PresetSource} {c : Configuration}
    (h : build root source (some document) presets = .ok c) :
    ∃ resolved, presets.resolve document.bases (source.dir root) source.ancestry = .ok resolved ∧
      ∀ s : Setting, c.Has s ((s.said (document, source.origin root)).or
        ((resolved.reverse.findSome? fun preset => s.said (preset.document, preset.origin root)).or
          (s.said (Preset.defaults, defaultsName)))) := by
  obtain ⟨resolved, hresolve, hmerged⟩ := ofMerged_of_build h
  refine ⟨resolved, hresolve, fun s => ?_⟩
  have hlast := ofMerged_has hmerged s
  rw [namedDocuments, List.map_append, List.map_map, List.map_singleton, ← List.cons_append,
    findSome?_reverse_between, ← List.map_reverse, List.findSome?_map] at hlast
  simpa [Function.comp_def, NamedDocument.ofPreset_document, NamedDocument.ofPreset_origin]
    using hlast

/-- By whose word a configuration goes in a setting. `own` is the project's document with its name,
and `chain` are the presets that it extends. -/
structure GoesBy [Explanations] (c : Configuration) (root : HostPath) (own : Document × String)
    (chain : List PlacedPreset) (s : Setting) : Prop where
  own_stands : ∀ content, s.said own = some content → c.Has s (some content)
  preset_stands : s.said own = none → (∃ p ∈ chain, s.said (p.named root) ≠ none) →
    ∃ winner ∈ chain, s.said (winner.named root) ≠ none ∧ c.Has s (s.said (winner.named root)) ∧
      ∀ other ∈ chain, s.said (other.named root) ≠ none →
        ¬Relation.TransGen (PresetSource.ExtendsIn chain) other.key winner.key
  defaults_stand : s.said own = none → (∀ p ∈ chain, s.said (p.named root) = none) →
    c.Has s (s.said (Preset.defaults, defaultsName))

attribute [local instance] Explanations.brief

/-- Two presets that extend a third one. The first of them overrides what the third one says. -/
def sharedBase : PresetSource := PresetSource.ofTexts [
  ("/p/base.json", .json,
    "\x7b\"exclude\": [\"x\"], \"rules\": \x7b\"custom\": [\x7b\"id\": \"r1\"\x7d]\x7d\x7d"),
  ("/p/a.json", .json, "\x7b\"extends\": [\"./base.json\"], \"exclude\": [\"y\"]\x7d"),
  ("/p/b.json", .json, "\x7b\"extends\": [\"./base.json\"]\x7d")]

def ofSharedBase : Except ConfigError Configuration :=
  build ⟨"/p"⟩ (.project ⟨"/p/struct-lint.json"⟩) (some { bases := ["./a.json", "./b.json"] })
    sharedBase

end Configuration
end TreeLint
