import TreeLint.Proofs.Precedence

/-!
In which file the faults of a rule are shown. Each rule of a configuration comes from the document
that declares it last, and is shown in the file of the last document with the name of that one. Names
tell documents apart, unless a file of the project has the name of a built-in preset.
-/
namespace TreeLint

/-- A rule with the document that declares it. -/
structure Declaration where
  rule : RuleDocument
  holder : NamedDocument

namespace Declaration

/-- The rule with the name of its document. -/
def named (d : Declaration) : OriginRule := ⟨d.rule, d.holder.origin⟩

/-- All rules of some documents, in the order in which they are declared. -/
def ofDocuments (documents : List NamedDocument) : List Declaration :=
  documents.flatMap fun d => d.document.customRules.map (⟨·, d⟩)

/-- The declarations whose id no later one has, and those without an id. -/
def standing : List Declaration → List Declaration
  | [] => []
  | d :: later =>
    if d.rule.id ≠ "" ∧ ∃ e ∈ later, e.rule.id = d.rule.id then standing later
    else d :: standing later

/-- The declarations that make the rules of a configuration. -/
def winning (documents : List NamedDocument) : List Declaration :=
  (standing (ofDocuments documents)).filter fun d => !d.rule.disabled

theorem holder_of_mem_winning {documents : List NamedDocument} {d : Declaration}
    (h : d ∈ winning documents) : d.holder ∈ documents := by
  have hstanding : ∀ ds : List Declaration, (standing ds).Sublist ds := by
    intro ds
    induction ds with
    | nil => exact .refl _
    | cons e ds ih =>
      rw [standing]
      split_ifs
      · exact ih.cons e
      · exact ih.cons_cons e
  obtain ⟨holder, hholder, hd⟩ :=
    List.mem_flatMap.mp ((hstanding _).subset (List.mem_of_mem_filter h))
  obtain ⟨rule, -, rfl⟩ := List.mem_map.mp hd
  exact hholder

theorem standing_concat (ds : List Declaration) (new : Declaration) : standing (ds ++ [new]) =
    (standing ds).filter (fun d => ¬(new.rule.id ≠ "" ∧ d.rule.id = new.rule.id)) ++ [new] := by
  induction ds with
  | nil => simp [standing]
  | cons d ds ih =>
    rw [List.cons_append, standing, standing, ih]
    by_cases hlater : d.rule.id ≠ "" ∧ ∃ e ∈ ds, e.rule.id = d.rule.id
    · obtain ⟨hid, e, he, hsame⟩ := hlater
      rw [if_pos ⟨hid, e, List.mem_append_left _ he, hsame⟩, if_pos ⟨hid, e, he, hsame⟩]
    · rw [if_neg hlater]
      by_cases hnew : new.rule.id ≠ "" ∧ d.rule.id = new.rule.id
      · have hid : d.rule.id ≠ "" := fun h => hnew.1 (hnew.2.symm.trans h)
        rw [if_pos ⟨hid, new, by simp, hnew.2.symm⟩, List.filter_cons_of_neg (by simpa using hnew)]
      · have hlast : ¬(d.rule.id ≠ "" ∧ ∃ e ∈ ds ++ [new], e.rule.id = d.rule.id) := by
          rintro ⟨hid, e, he, hsame⟩
          rcases List.mem_append.mp he with he | he
          · exact hlater ⟨hid, e, he, hsame⟩
          · obtain rfl := List.mem_singleton.mp he
            exact hnew ⟨hsame ▸ hid, hsame.symm⟩
        rw [if_neg hlast, List.filter_cons_of_pos (by exact decide_eq_true hnew), List.cons_append]

end Declaration

namespace Merged

open Declaration

/-- A rule that is put into the place of another one is there instead of it. -/
theorem putRule_perm (new : OriginRule) {rules : List OriginRule} (hrules : DistinctIds rules) :
    (putRule new rules).Perm
      (new :: rules.filter fun old => ¬(new.rule.id ≠ "" ∧ old.rule.id = new.rule.id)) := by
  induction rules with
  | nil => rfl
  | cons old rest ih =>
    obtain ⟨hold, hrest⟩ := List.pairwise_cons.mp hrules
    by_cases hsame : new.rule.id ≠ "" ∧ old.rule.id = new.rule.id
    · have hkept : (rest.filter fun old => ¬(new.rule.id ≠ "" ∧ old.rule.id = new.rule.id)) =
          rest := by
        refine List.filter_eq_self.mpr fun r hr => decide_eq_true fun h => ?_
        exact h.1 (hsame.2 ▸ hold r hr (hsame.2.trans h.2.symm))
      rw [putRule, if_pos hsame, List.filter_cons_of_neg (by simpa using hsame), hkept]
    · rw [putRule, if_neg hsame, List.filter_cons_of_pos (by exact decide_eq_true hsame)]
      exact ((ih hrest).cons old).trans (.swap new old _)

/-- Putting declarations one after the other leaves those that stand. -/
theorem foldl_putRule_perm (ds : List Declaration) :
    ((ds.map named).foldl (fun kept r => putRule r kept) []).Perm ((standing ds).map named) := by
  induction ds using List.reverseRecOn with
  | nil => rfl
  | append_singleton ds new ih =>
    have hdistinct : DistinctIds ((ds.map named).foldl (fun kept r => putRule r kept) []) := by
      rw [foldl_putRule]
      exact distinctIds_map_lastDeclared _
    rw [List.map_append, List.foldl_append, standing_concat, List.map_append]
    refine (putRule_perm new.named hdistinct).trans ?_
    refine ((ih.filter _).cons new.named).trans ?_
    rw [List.filter_map]
    exact (List.perm_append_singleton _ _).symm

/-- The rules that documents make come from their winning declarations. -/
theorem ofDocuments_rules_perm (documents : List NamedDocument) :
    (ofDocuments ((Preset.defaults, Configuration.defaultsName) ::
      documents.map fun n => (n.document, n.origin))).rules.Perm ((winning documents).map named) := by
  have hdeclared : declared ((Preset.defaults, Configuration.defaultsName) ::
      documents.map fun n => (n.document, n.origin)) =
        (Declaration.ofDocuments documents).map named := by
    have hnone : Preset.defaults.customRules = [] := rfl
    simp [declared, Declaration.ofDocuments, named, hnone, List.flatMap_map, List.map_flatMap,
      Function.comp_def]
  rw [ofDocuments_rules, ← foldl_putRule, hdeclared, winning]
  refine ((foldl_putRule_perm _).filter _).trans (.of_eq ?_)
  rw [List.filter_map]
  rfl

end Merged

section Absolute

variable {source : PresetSource} {dir place : HostPath} {entries : List String} {key : PresetKey}

theorem PresetSource.Names.isAbsolute (h : Names dir entries key)
    (hdir : dir.isAbsolute = true) : ∀ path, key = .file path → path.isAbsolute = true := by
  rintro path rfl
  obtain ⟨entry, -, origin, hparse⟩ := h
  unfold PresetKey.parse at hparse
  split_ifs at hparse
  · cases hparse
  obtain rfl := PresetKey.file.inj (Except.ok.inj hparse)
  exact HostPath.isAbsolute_normalize (HostPath.isAbsolute_join hdir)

theorem PresetKey.isAbsolute_dir? (hkey : ∀ path, key = .file path → path.isAbsolute = true)
    (hplace : place.isAbsolute = true) : (key.dir?.getD place).isAbsolute = true := by
  cases hdir : key.dir? with
  | none => exact hplace
  | some dir =>
    cases key with
    | builtin name => cases hdir
    | file path => exact HostPath.isAbsolute_parent? (hkey path rfl) hdir

/-- Whatever a document in an absolute directory extends lies under an absolute path. -/
theorem PresetSource.ReadIn.isAbsolute (h : source.ReadIn dir entries key place)
    (hdir : dir.isAbsolute = true) :
    place.isAbsolute = true ∧ ∀ path, key = .file path → path.isAbsolute = true := by
  induction h with
  | named hnames =>
    have hkey := hnames.isAbsolute hdir
    exact ⟨PresetKey.isAbsolute_dir? hkey hdir, hkey⟩
  | extended _ _ hbase ih =>
    have hkey := hbase.isAbsolute ih.1
    exact ⟨PresetKey.isAbsolute_dir? hkey ih.1, hkey⟩

theorem PresetSource.isAbsolute_of_resolve {ancestry : List PresetKey}
    {chain : List ResolvedPreset} (h : source.resolve entries dir ancestry = .ok chain)
    (hdir : dir.isAbsolute = true) :
    ∀ preset ∈ chain, ∀ path, preset.key = .file path → path.isAbsolute = true := by
  obtain ⟨placed, rfl, -, hread, -⟩ := (expands_of_expand h).placed placed_nil rfl
  intro preset hpreset path hkey
  obtain ⟨p, hp, rfl⟩ := List.mem_map.mp hpreset
  exact ((hread p hp).isAbsolute hdir).2 path hkey

theorem ConfigSource.isAbsolute_dir {root path : HostPath} {config : ConfigSource}
    (hroot : root.isAbsolute = true) (hpath : config.path? = some path)
    (habs : path.isAbsolute = true) : (config.dir root).isAbsolute = true := by
  rw [ConfigSource.dir, hpath, Option.map_some, Option.getD_some]
  cases hparent : path.parent? with
  | none => exact hroot
  | some parent => exact HostPath.isAbsolute_parent? habs hparent

end Absolute

namespace NamedDocument

variable {root path path' : HostPath}

theorem ne_root_of_ofFile? {p : ProjectPath} (h : ProjectPath.ofFile? path root = some p) :
    p.isRoot = false ∧ p.Canonical := by
  obtain ⟨hhost, hroot⟩ := Option.filter_eq_some_iff.mp h
  obtain ⟨rest, -, hread⟩ := Option.bind_eq_some_iff.mp hhost
  exact ⟨by simpa using hroot, ProjectPath.canonical_of_normalize? hread⟩

theorem originOf_of_some {p : ProjectPath} (h : ProjectPath.ofFile? path root = some p) :
    originOf path root = p.text := by
  unfold originOf
  rw [h]
  simp [ProjectPath.display, (ne_root_of_ofFile? h).1]

theorem originOf_of_none (h : ProjectPath.ofFile? path root = none) :
    originOf path root = path.text := by
  unfold originOf
  rw [h]

/-- No path of the project starts with a slash. -/
theorem text_ne_of_isAbsolute {p : ProjectPath} (h : ProjectPath.ofFile? path root = some p)
    (habs : path'.isAbsolute = true) : p.text ≠ path'.text := by
  obtain ⟨hroot, names, hnames, rfl⟩ := ne_root_of_ofFile? h
  intro heq
  have hhead : (ProjectPath.ofSegments names).text.toList.head? = some '/' := by
    rw [heq]
    simpa [HostPath.isAbsolute] using habs
  cases names with
  | nil => cases hroot
  | cons n rest =>
    have hn := hnames n (by simp)
    obtain ⟨c, cs, hc⟩ := List.exists_cons_of_ne_nil hn.toList_ne_nil
    have hfirst : (ProjectPath.ofSegments (n :: rest)).text.toList.head? = some c := by
      rw [ProjectPath.text_ofSegments]
      cases rest <;> simp [hc]
    have hslash := hn.no_slash
    rw [hfirst] at hhead
    obtain rfl := Option.some.inj hhead
    simp [hc] at hslash

/-- Files of the same name are the same file of the project, or both lie outside. -/
theorem ofFile?_eq_of_originOf (habs : path.isAbsolute = true) (habs' : path'.isAbsolute = true)
    (h : originOf path root = originOf path' root) :
    ProjectPath.ofFile? path root = ProjectPath.ofFile? path' root := by
  cases hfile : ProjectPath.ofFile? path root with
  | none =>
    cases hfile' : ProjectPath.ofFile? path' root with
    | none => rfl
    | some p' =>
      rw [originOf_of_none hfile, originOf_of_some hfile'] at h
      exact absurd h.symm (text_ne_of_isAbsolute hfile' habs)
  | some p =>
    cases hfile' : ProjectPath.ofFile? path' root with
    | none =>
      rw [originOf_of_some hfile, originOf_of_none hfile'] at h
      exact absurd h (text_ne_of_isAbsolute hfile habs')
    | some p' =>
      rw [originOf_of_some hfile, originOf_of_some hfile'] at h
      exact congrArg _ (congrArg ProjectPath.mk h)

/-- Where documents of one name are shown in one file, that is where they are looked up. -/
theorem fileOf_of_mem {documents : List NamedDocument} {d : NamedDocument} (hd : d ∈ documents)
    (hsame : ∀ e ∈ documents, e.origin = d.origin → e.file = d.file) :
    fileOf documents d.origin = d.file := by
  cases hfound : documents.reverse.find? (·.origin = d.origin) with
  | none => simpa using List.find?_eq_none.mp hfound d (List.mem_reverse.mpr hd)
  | some e =>
    have horigin : e.origin = d.origin := by simpa using List.find?_some hfound
    rw [fileOf, hfound, Option.bind_some]
    exact hsame e (List.mem_reverse.mp (List.mem_of_find?_eq_some hfound)) horigin

end NamedDocument

namespace Configuration

section Names

variable {root : HostPath} {source : ConfigSource} {document : Document}
  {chain : List ResolvedPreset}

/-- What name and file a document has: those of a built-in preset, or those of a file, which is
either a preset or shown in the project's own document. -/
inductive Known (root : HostPath) (file? : Option ProjectPath) (keys : List PresetKey)
    (d : NamedDocument) : Prop
  | builtin (name : String) (hkey : .builtin name ∈ keys)
    (horigin : d.origin = (PresetKey.builtin name).display) (hfile : d.file = file?)
  | file (path : HostPath) (habs : path.isAbsolute = true)
    (horigin : d.origin = NamedDocument.originOf path root)
    (hfile : d.file = (ProjectPath.ofFile? path root).or file?)
    (hkey : .file path ∈ keys ∨ d.file = file?)

theorem known_of_mem {path : HostPath} (hpath : source.path? = some path)
    (habs : path.isAbsolute = true)
    (hchain : ∀ preset ∈ chain, ∀ path, preset.key = .file path → path.isAbsolute = true)
    {d : NamedDocument} (hd : d ∈ namedDocuments root source document chain) :
    Known root (source.file? root) (chain.map (·.key)) d := by
  rcases List.mem_append.mp hd with hd | hd
  · obtain ⟨preset, hpreset, rfl⟩ := List.mem_map.mp hd
    have hmem := List.mem_map_of_mem (f := ResolvedPreset.key) hpreset
    cases hkey : preset.key with
    | builtin name =>
      refine .builtin name (hkey ▸ hmem) ?_ ?_ <;> simp only [NamedDocument.ofPreset, hkey]
    | file path' =>
      refine .file path' (hchain preset hpreset path' hkey) ?_ ?_ (.inl (hkey ▸ hmem)) <;>
        simp only [NamedDocument.ofPreset, hkey]
  · obtain rfl := List.mem_singleton.mp hd
    refine .file path habs ?_ ?_ (.inr rfl)
    · rw [ConfigSource.origin, hpath, Option.map_some, Option.getD_some]
    · rw [ConfigSource.file?, hpath, Option.bind_some, Option.or_self]

/-- Documents of the same name are shown in the same file, as long as no preset in a file has the
name of a built-in one. -/
theorem Known.file_eq {file? : Option ProjectPath} {keys : List PresetKey} {d e : NamedDocument}
    (hd : Known root file? keys d) (he : Known root file? keys e)
    (hkeys : ∀ path name, .file path ∈ keys → .builtin name ∈ keys →
      NamedDocument.originOf path root ≠ (PresetKey.builtin name).display)
    (h : e.origin = d.origin) : e.file = d.file := by
  cases hd with
  | builtin name hname horigin hfile =>
    rw [hfile]
    cases he with
    | builtin _ _ _ hfile' => exact hfile'
    | file path _ horigin' _ hkey =>
      exact hkey.resolve_left fun hpath =>
        hkeys path name hpath hname (horigin'.symm.trans (h.trans horigin))
  | file path habs horigin hfile hkey =>
    cases he with
    | builtin name hname horigin' hfile' =>
      rw [hfile']
      exact (hkey.resolve_left fun hpath =>
        hkeys path name hpath hname (horigin.symm.trans (h.symm.trans horigin'))).symm
    | file path' habs' horigin' hfile' _ =>
      rw [hfile, hfile', NamedDocument.ofFile?_eq_of_originOf habs' habs
        (horigin'.symm.trans (h.trans horigin))]

end Names

theorem build_rules [Explanations] {root : HostPath} {source : ConfigSource} {document : Document}
    {presets : PresetSource} {c : Configuration}
    (h : build root source (some document) presets = .ok c) :
    ∃ chain, presets.resolve document.bases (source.dir root) source.ancestry = .ok chain ∧
      c.rules.Perm ((Declaration.winning (namedDocuments root source document chain)).map fun w =>
        .ofDocument w.rule w.holder.origin (NamedDocument.fileOf
          (namedDocuments root source document chain) w.holder.origin)) := by
  obtain ⟨chain, hchain, hmerged⟩ := ofMerged_of_build h
  obtain ⟨included, ignore, -, -, rfl⟩ := ofMerged_ok hmerged
  refine ⟨chain, hchain, ((Merged.ofDocuments_rules_perm _).map _).trans (.of_eq ?_)⟩
  rw [List.map_map]
  rfl

/-- Rules come from the declarations that no later one with their id overrides, and each is shown in
the file of the last document that has the name of its own. That is its own file, or that of the
project's document where it has none in the project, as long as no preset in a file has the name of a
built-in one. -/
theorem build_attribution [Explanations] {root : HostPath} {source : ConfigSource}
    {document : Document} {presets : PresetSource} {c : Configuration}
    (h : build root source (some document) presets = .ok c) :
    ∃ chain, presets.resolve document.bases (source.dir root) source.ancestry = .ok chain ∧
      c.rules.Perm ((Declaration.winning (namedDocuments root source document chain)).map fun w =>
        .ofDocument w.rule w.holder.origin (NamedDocument.fileOf
          (namedDocuments root source document chain) w.holder.origin)) ∧
      (root.isAbsolute → ∀ path, source.path? = some path → path.isAbsolute →
        (∀ path name, .file path ∈ chain.map (·.key) → .builtin name ∈ chain.map (·.key) →
          NamedDocument.originOf path root ≠ (PresetKey.builtin name).display) →
        c.rules.Perm ((Declaration.winning (namedDocuments root source document chain)).map fun w =>
          .ofDocument w.rule w.holder.origin w.holder.file)) := by
  obtain ⟨chain, hchain, hrules⟩ := build_rules h
  refine ⟨chain, hchain, hrules, fun hroot path hpath habs hkeys => ?_⟩
  have habsolute := PresetSource.isAbsolute_of_resolve hchain
    (ConfigSource.isAbsolute_dir hroot hpath habs)
  refine hrules.trans (.of_eq (List.map_congr_left fun w hw => ?_))
  have hholder := Declaration.holder_of_mem_winning hw
  rw [NamedDocument.fileOf_of_mem hholder fun e he =>
    (known_of_mem hpath habs habsolute hholder).file_eq (known_of_mem hpath habs habsolute he) hkeys]

attribute [local instance] Explanations.brief

/-- A preset in the project and one outside. -/
def scattered : PresetSource := PresetSource.ofTexts [
  ("/p/presets/team.json", .json,
    "\x7b\"rules\": \x7b\"custom\": [\x7b\"id\": \"team\"\x7d]\x7d\x7d"),
  ("/shared.json", .json,
    "\x7b\"rules\": \x7b\"custom\": [\x7b\"id\": \"shared\"\x7d]\x7d\x7d")]

def scatteredBases : List String :=
  ["builtin/feature-modules", "./presets/team.json", "../shared.json"]

/-- A preset that says nothing, in a file with the name of a built-in preset. -/
def shadowing : PresetSource :=
  PresetSource.ofTexts [("/p/builtin/feature-modules", .json, "\x7b\x7d")]

def shadowingBases : List String := ["builtin/feature-modules", "./builtin/feature-modules"]

/-- A document that extends some presets, and declares one rule itself. -/
def extending (bases : List String) : Document where
  bases
  rules := some [{ id := "own" }]

def extendingFile : ConfigSource := .project ⟨"/p/struct-lint.json"⟩

def ofExtending (bases : List String) (presets : PresetSource) :
    Except ConfigError Configuration :=
  build ⟨"/p"⟩ extendingFile (some (extending bases)) presets

def chainOfExtending (bases : List String) (presets : PresetSource) :
    Except ConfigError (List ResolvedPreset) :=
  presets.resolve bases (extendingFile.dir ⟨"/p"⟩) extendingFile.ancestry

def winningOfExtending (bases : List String) (chain : List ResolvedPreset) : List Declaration :=
  Declaration.winning (namedDocuments ⟨"/p"⟩ extendingFile (extending bases) chain)

theorem build_attribution_scattered :
    ∃ c chain, ofExtending scatteredBases scattered = .ok c ∧
      chainOfExtending scatteredBases scattered = .ok chain ∧
      c.rules.map (fun r => (r.document.id, r.file)) =
        [("feature-public-api", some ⟨"struct-lint.json"⟩), ("team", some ⟨"presets/team.json"⟩),
          ("shared", some ⟨"struct-lint.json"⟩), ("own", some ⟨"struct-lint.json"⟩)] ∧
      c.rules.Perm ((winningOfExtending scatteredBases chain).map fun w =>
        .ofDocument w.rule w.holder.origin w.holder.file) := by
  have hvalues : (ofExtending scatteredBases scattered).toOption.map
      (·.rules.map fun r => (r.document.id, r.file)) =
      some [("feature-public-api", some ⟨"struct-lint.json"⟩), ("team", some ⟨"presets/team.json"⟩),
        ("shared", some ⟨"struct-lint.json"⟩), ("own", some ⟨"struct-lint.json"⟩)] := by
    decide +kernel
  have hkeys : (chainOfExtending scatteredBases scattered).toOption.map
      (·.map ResolvedPreset.key) =
      some [.builtin "base", .builtin "feature-modules", .file ⟨"/p/presets/team.json"⟩,
        .file ⟨"/shared.json"⟩] := by
    decide +kernel
  obtain ⟨c, hbuild, hread⟩ := ok_of_toOption_map hvalues
  obtain ⟨resolved, hresolved, hkeys⟩ := ok_of_toOption_map hkeys
  obtain ⟨chain, hchain, -, hrules⟩ := build_attribution hbuild
  obtain rfl := Except.ok.inj (hchain.symm.trans hresolved)
  refine ⟨c, chain, hbuild, hchain, hread, hrules (by decide) _ rfl (by decide) ?_⟩
  rw [hkeys]
  intro path name hpath hname
  simp only [List.mem_cons, List.not_mem_nil, reduceCtorEq, PresetKey.file.injEq,
    PresetKey.builtin.injEq, false_or, or_false] at hpath hname
  rcases hpath with rfl | rfl
  · rcases hname with rfl | rfl <;> decide +kernel
  · rcases hname with rfl | rfl <;> decide +kernel

/-- A preset in the file `builtin/feature-modules` takes the rule of the built-in preset of this name
to itself, though it declares none. -/
theorem build_attribution_shadowed :
    ∃ c chain, ofExtending shadowingBases shadowing = .ok c ∧
      chainOfExtending shadowingBases shadowing = .ok chain ∧
      (winningOfExtending shadowingBases chain).map (fun w => (w.rule.id, w.holder.file)) =
        [("feature-public-api", some ⟨"struct-lint.json"⟩), ("own", some ⟨"struct-lint.json"⟩)] ∧
      c.rules.map (fun r => (r.document.id, r.file)) =
        [("feature-public-api", some ⟨"builtin/feature-modules"⟩),
          ("own", some ⟨"struct-lint.json"⟩)] := by
  have hvalues : (ofExtending shadowingBases shadowing).toOption.map
      (·.rules.map fun r => (r.document.id, r.file)) =
      some [("feature-public-api", some ⟨"builtin/feature-modules"⟩),
        ("own", some ⟨"struct-lint.json"⟩)] := by
    decide +kernel
  have hwinning : (chainOfExtending shadowingBases shadowing).toOption.map (fun chain =>
      (winningOfExtending shadowingBases chain).map fun w => (w.rule.id, w.holder.file)) =
      some [("feature-public-api", some ⟨"struct-lint.json"⟩),
        ("own", some ⟨"struct-lint.json"⟩)] := by
    decide +kernel
  obtain ⟨c, hbuild, hread⟩ := ok_of_toOption_map hvalues
  obtain ⟨chain, hchain, hwinners⟩ := ok_of_toOption_map hwinning
  exact ⟨c, chain, hbuild, hchain, hwinners, hread⟩

end Configuration
end TreeLint
