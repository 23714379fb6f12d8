import TreeLint.Proofs.IgnoreSet

/-!
What the entries of an ignore set leave out. Each entry leaves out what it would by itself, so
neither the order of entries nor repetitions matter, and an entry that is no pattern leaves the set
in hand as it was.
-/
namespace TreeLint.IgnoreSet

/-- What an entry leaves out: as a pattern what it matches, and otherwise the path that it names and
all below, unless that is the root. -/
def Hides (entry : String) (path : ProjectPath) : Prop :=
  if Pattern.isWild entry then ∃ p, Pattern.parse entry = .ok p ∧ p.isMatch path = true
  else
    ∃ place, ProjectPath.normalize? entry = some place ∧ place ≠ .root ∧
      place.segments <+: path.segments

/-- The set of one entry. -/
def ofEntry (entry : String) : Except PatternError IgnoreSet :=
  if Pattern.isWild entry then (fun p => ⟨[p], []⟩) <$> Pattern.parse entry
  else .ok ⟨[], ((ProjectPath.normalize? entry).filter fun place => !place.isRoot).toList⟩

/-- To add an entry is to add the set of that entry. Where there is none the set in hand stays. -/
theorem run_enter (s : IgnoreSet) (entry : String) :
    (enter entry).run.run s =
      match ofEntry entry with
      | .ok alone => (.ok (), s.union alone)
      | .error e => (.error e, s) := by
  unfold enter ofEntry
  split_ifs with hwild
  · cases Pattern.parse entry with
    | error e => rfl
    | ok p =>
      change (Except.ok (), _) = (Except.ok (), s.union ⟨[p], []⟩)
      simp [union]
  · cases ProjectPath.normalize? entry with
    | none =>
      change (Except.ok (), s) = (Except.ok (), s.union ⟨[], []⟩)
      simp [union]
    | some place =>
      cases hroot : place.isRoot with
      | true =>
        simp only [hroot, Option.filter, Bool.not_true]
        change (Except.ok (), s) = (Except.ok (), s.union ⟨[], []⟩)
        simp [union]
      | false =>
        simp only [hroot, Option.filter, Bool.not_false]
        change (Except.ok (), _) = (Except.ok (), s.union ⟨[], [place]⟩)
        simp [union]

theorem add_eq (s : IgnoreSet) (entry : String) : s.add entry = s.union <$> ofEntry entry := by
  rw [add, run_enter]
  cases ofEntry entry with
  | ok alone => rfl
  | error e => rfl

/-- An entry is refused where it is to be a pattern and is none. -/
theorem ofEntry_eq_error_iff {entry : String} {e : PatternError} :
    ofEntry entry = .error e ↔ Pattern.isWild entry = true ∧ Pattern.parse entry = .error e := by
  unfold ofEntry
  split_ifs with hwild
  · cases Pattern.parse entry with
    | error e' => simp [hwild, Functor.map, Except.map]
    | ok p => simp [Functor.map, Except.map]
  · simp [hwild]

/-- An entry that is refused leaves nothing behind. -/
theorem run_enter_eq_error_iff {s t : IgnoreSet} {entry : String} {e : PatternError} :
    (enter entry).run.run s = (.error e, t) ↔ ofEntry entry = .error e ∧ t = s := by
  rw [run_enter]
  cases ofEntry entry with
  | ok alone => exact iff_of_false (fun h => by cases h) (by simp)
  | error e' =>
    constructor
    · intro h
      cases h
      exact ⟨rfl, rfl⟩
    · rintro ⟨h, rfl⟩
      cases h
      rfl

theorem isIgnored_alone {entry : String} {alone : IgnoreSet} (h : ofEntry entry = .ok alone)
    {path : ProjectPath} (hpath : path.Canonical) :
    alone.isIgnored path = true ↔ Hides entry path := by
  rw [ofEntry] at h
  unfold Hides
  split_ifs at h ⊢ with hwild
  · obtain ⟨p, hp, rfl⟩ := map_ok_iff.mp h
    simp [isIgnored_iff, hp]
  · obtain rfl := Except.ok.inj h
    simp only [isIgnored_iff, Option.mem_toList, Option.filter_eq_some_iff, List.not_mem_nil,
      false_and, exists_false, or_false, Bool.not_eq_true', ← Bool.not_eq_true,
      ProjectPath.isRoot_iff, and_assoc]
    refine exists_congr fun place => and_congr_right fun hplace => and_congr_right fun _ => ?_
    exact ProjectPath.startsWith_iff hpath (ProjectPath.canonical_of_normalize? hplace)

/-- Entries can be added where each of them can be added by itself. -/
theorem exists_foldlM_add (s : IgnoreSet) (entries : List String) :
    (∃ t, entries.foldlM add s = .ok t) ↔ ∀ entry ∈ entries, ∃ alone, ofEntry entry = .ok alone := by
  induction entries generalizing s with
  | nil => simp [pure, Except.pure]
  | cons entry entries ih =>
    rw [List.forall_mem_cons]
    simp only [List.foldlM_cons, bind_ok_iff, add_eq s entry, map_ok_iff]
    constructor
    · rintro ⟨t, middle, ⟨alone, halone, rfl⟩, hrest⟩
      exact ⟨⟨alone, halone⟩, (ih _).mp ⟨t, hrest⟩⟩
    · rintro ⟨⟨alone, halone⟩, hrest⟩
      obtain ⟨t, ht⟩ := (ih (s.union alone)).mpr hrest
      exact ⟨t, s.union alone, ⟨alone, halone, rfl⟩, ht⟩

/-- What is said of entries that are refused is said of one of them as a pattern. -/
theorem failsOnly_ofEntries (entries : List String) :
    FailsOnly (fun e => ∃ entry, Pattern.parse entry = .error e) (ofEntries entries) := by
  refine .foldlM (fun s entry => ?_) _ _
  rw [add_eq]
  exact .map (fun e he => ⟨entry, (ofEntry_eq_error_iff.mp he).2⟩) _

/-- A set with more entries ignores what it did and what each of the entries does by itself. -/
theorem isIgnored_foldlM_add {s t : IgnoreSet} {entries : List String}
    (h : entries.foldlM add s = .ok t) (path : ProjectPath) :
    t.isIgnored path = true ↔ s.isIgnored path = true ∨
      ∃ entry ∈ entries, ∃ alone, ofEntry entry = .ok alone ∧ alone.isIgnored path = true := by
  induction entries generalizing s with
  | nil =>
    obtain rfl : s = t := Except.ok.inj h
    simp
  | cons entry entries ih =>
    rw [List.foldlM_cons] at h
    obtain ⟨middle, hmiddle, hrest⟩ := bind_ok_iff.mp h
    rw [add_eq] at hmiddle
    obtain ⟨alone, halone, rfl⟩ := map_ok_iff.mp hmiddle
    rw [ih hrest, isIgnored_union, Bool.or_eq_true, List.exists_mem_cons_iff, or_assoc]
    simp [halone]

theorem isIgnored_of_ofEntries {s : IgnoreSet} {entries : List String}
    (h : ofEntries entries = .ok s) (path : ProjectPath) :
    s.isIgnored path = true ↔
      ∃ entry ∈ entries, ∃ alone, ofEntry entry = .ok alone ∧ alone.isIgnored path = true := by
  rw [isIgnored_foldlM_add h path]
  simp [isIgnored, empty]

/-- A path is ignored where one of the entries leaves it out. The set of two lists of entries, mixed
and repeated in any way, ignores what the union of their sets does, and that is what one of the two
ignores. An entry that is refused leaves any set as it was. -/
theorem isIgnored_entries {entries : List String} {s : IgnoreSet} (h : ofEntries entries = .ok s) :
    (∀ path : ProjectPath, path.Canonical →
      (s.isIgnored path ↔ ∃ entry ∈ entries, Hides entry path)) ∧
    (∀ (more mixed : List String) (t : IgnoreSet), ofEntries more = .ok t →
      (∀ entry, entry ∈ mixed ↔ entry ∈ entries ∨ entry ∈ more) →
      ∃ u, ofEntries mixed = .ok u ∧ ∀ path, u.isIgnored path = (s.union t).isIgnored path) ∧
    (∀ (t u : IgnoreSet) (path : ProjectPath),
      (t.union u).isIgnored path = (t.isIgnored path || u.isIgnored path)) ∧
    (∀ (t u : IgnoreSet) (entry : String) (e : PatternError),
      (enter entry).run.run t = (.error e, u) ↔
        Pattern.isWild entry ∧ Pattern.parse entry = .error e ∧ u = t) := by
  refine ⟨fun path hpath => ?_, fun more mixed t ht hmixed => ?_, isIgnored_union,
    fun t u entry e => ?_⟩
  · have hreadable := (exists_foldlM_add empty entries).mp ⟨s, h⟩
    rw [isIgnored_of_ofEntries h]
    refine exists_congr fun entry => and_congr_right fun hentry => ?_
    obtain ⟨alone, halone⟩ := hreadable entry hentry
    simp [halone, isIgnored_alone halone hpath]
  · have hreadable : ∀ entry ∈ mixed, ∃ alone, ofEntry entry = .ok alone := by
      intro entry hentry
      rcases (hmixed entry).mp hentry with hentry | hentry
      · exact (exists_foldlM_add empty entries).mp ⟨s, h⟩ entry hentry
      · exact (exists_foldlM_add empty more).mp ⟨t, ht⟩ entry hentry
    obtain ⟨u, hu⟩ := (exists_foldlM_add empty mixed).mpr hreadable
    refine ⟨u, hu, fun path => ?_⟩
    rw [isIgnored_union, Bool.eq_iff_iff, Bool.or_eq_true, isIgnored_of_ofEntries hu,
      isIgnored_of_ofEntries h, isIgnored_of_ofEntries ht]
    simp only [hmixed, or_and_right, exists_or]
  · rw [run_enter_eq_error_iff, ofEntry_eq_error_iff, and_assoc]

/-- A directory, all maps, and two entries that name no path below the root. -/
def outputEntries : List String := ["./dist//", "**/*.map", "dist/..", "../dist"]

theorem isIgnored_entries_output :
    ofEntries outputEntries =
      .ok ⟨[⟨"**/*.map", [.recursive, .wildcard ⟨"*.map",
        [.anyText, .char '.', .char 'm', .char 'a', .char 'p']⟩]⟩], [⟨"dist"⟩]⟩ ∧
    (∃ entry ∈ outputEntries, Hides entry ⟨"dist/a.js"⟩) ∧
    ¬∃ entry ∈ outputEntries, Hides entry ⟨"distant/a.js"⟩ := by
  have h : ofEntries outputEntries =
      .ok ⟨[⟨"**/*.map", [.recursive, .wildcard ⟨"*.map",
        [.anyText, .char '.', .char 'm', .char 'a', .char 'p']⟩]⟩], [⟨"dist"⟩]⟩ := by
    decide +kernel
  have hinside : (⟨"dist/a.js"⟩ : ProjectPath).Canonical :=
    ProjectPath.canonical_of_normalize? (by decide : ProjectPath.normalize? "dist/a.js" = some _)
  have hbeside : (⟨"distant/a.js"⟩ : ProjectPath).Canonical :=
    ProjectPath.canonical_of_normalize? (by decide : ProjectPath.normalize? "distant/a.js" = some _)
  refine ⟨h, ((isIgnored_entries h).1 _ hinside).mp (by decide +kernel), ?_⟩
  rw [← (isIgnored_entries h).1 _ hbeside]
  decide +kernel

end TreeLint.IgnoreSet
