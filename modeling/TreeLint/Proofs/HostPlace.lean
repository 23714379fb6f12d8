import TreeLint.Config.Chain
import TreeLint.Proofs.HostPath

/-!
The place that a host path names, told by its text alone. A normal form names the place of the path
that it was made from, unless the path is relative and climbs more than one level: of two climbs in
a row that nothing stands before, the second takes the first one off. So presets in files are kept
apart wherever entries are read in absolute directories.
-/
namespace TreeLint

namespace HostPath

/-- The names that lead from the root to a place, the last one first, after one more component. A
climb leaves the last name; the root lies in itself. -/
def placeStep (above : List String) : Component → List String
  | .root => []
  | .here => above
  | .up => above.tail
  | .name s => s :: above

/-- The place that a path names, a relative one as it is read in the root. -/
def place (p : HostPath) : List String := p.components.foldl placeStep []

/-- The components that the pieces of a text stand for. -/
def piecewise (cs : List Char) : List Component :=
  ((cs.splitOn '/').map String.ofList).filterMap Component.ofPiece?

@[simp] theorem piecewise_nil : piecewise [] = [] := rfl

theorem piecewise_append (before after : List Char) :
    piecewise (before ++ '/' :: after) = piecewise before ++ piecewise after := by
  simp only [piecewise, List.splitOn_append_cons_self, List.map_append, List.filterMap_append]

theorem filterMap_pieces (p : HostPath) :
    p.pieces.filterMap Component.ofPiece? = piecewise p.text.toList := by
  unfold pieces
  split_ifs with h
  · obtain ⟨rest, hrest⟩ : ∃ rest, p.text.toList = '/' :: rest := by
      simpa [isAbsolute, List.head?_eq_some_iff] using h
    have hsplit := piecewise_append [] rest
    rw [List.nil_append, piecewise_nil, List.nil_append] at hsplit
    rw [hrest, hsplit, piecewise, List.splitOn_cons_eq_if_modifyHead]
    simp
  · rfl

/-- From a place on a path leads along its pieces, an absolute one from the root. -/
theorem foldl_placeStep_components (p : HostPath) (above : List String) :
    p.components.foldl placeStep above =
      (piecewise p.text.toList).foldl placeStep (if p.isAbsolute then [] else above) := by
  unfold components
  rw [filterMap_pieces]
  split_ifs <;> rfl

/-- The slash between two paths that are joined adds nothing to their pieces. -/
theorem piecewise_join {b p : HostPath} (hp : p.isAbsolute = false) :
    piecewise (b.join p).text.toList = piecewise b.text.toList ++ piecewise p.text.toList := by
  unfold join
  rw [if_neg (by simp [hp])]
  split_ifs with hend
  · rcases hend with hempty | hslash
    · simp [hempty]
    · obtain ⟨before, hbefore⟩ := List.getLast?_eq_some_iff.mp hslash
      have hb : piecewise b.text.toList = piecewise before := by
        rw [hbefore, piecewise_append before [], piecewise_nil, List.append_nil]
      rw [hb, String.toList_append, hbefore, List.append_assoc, List.singleton_append,
        piecewise_append]
  · have hslash : "/".toList = ['/'] := rfl
    rw [String.toList_append, String.toList_append, hslash, List.append_assoc,
      List.singleton_append, piecewise_append]

/-- A path leads on from the directory that it is read in. -/
theorem place_join {b : HostPath} (hb : b.isAbsolute = true) (p : HostPath) :
    (b.join p).place = p.components.foldl placeStep b.place := by
  rw [foldl_placeStep_components]
  cases hp : p.isAbsolute with
  | true =>
    have hjoin : b.join p = p := by simp [join, hp]
    rw [hjoin, place, foldl_placeStep_components, hp]
    rfl
  | false =>
    rw [place, place, foldl_placeStep_components, foldl_placeStep_components b,
      isAbsolute_join hb, hb, piecewise_join hp, List.foldl_append]
    rfl

/-- As many names are left of a place as a path climbs levels out of it, and the names that the path
goes down follow. -/
theorem foldl_placeStep_trail {cs : List Component} (hcs : ∀ c ∈ cs, c = .here ∨ c.Plain)
    (above : List String) (climbs : ℕ) (names : List String) :
    cs.foldl placeStep (names ++ above.drop climbs) =
      (cs.foldl trailStep (climbs, names)).2 ++
        above.drop (cs.foldl trailStep (climbs, names)).1 := by
  induction cs generalizing climbs names with
  | nil => rfl
  | cons c cs ih =>
    have hrest := ih fun d hd => hcs d (by simp [hd])
    rw [List.foldl_cons, List.foldl_cons]
    cases c with
    | root => simpa [Component.Plain] using hcs .root (by simp)
    | here => exact hrest climbs names
    | name s => exact hrest climbs (s :: names)
    | up =>
      cases names with
      | nil =>
        have hup := hrest (climbs + 1) []
        rwa [← List.tail_drop] at hup
      | cons n names => exact hrest climbs names

theorem foldl_placeStep_eq (p : HostPath) (above : List String) :
    p.components.foldl placeStep above =
      p.trail.2 ++ (if p.isAbsolute then [] else above).drop p.climbs := by
  obtain ⟨body, hbody, hcomponents⟩ := components_eq p
  have hlead := foldl_placeStep_trail hbody (if p.isAbsolute then [] else above) 0 []
  rw [climbs, trail, hcomponents, List.foldl_append, List.foldl_append]
  cases hp : p.isAbsolute with
  | true =>
    rw [hp] at hlead
    simpa [placeStep, trailStep] using hlead
  | false =>
    rw [hp] at hlead
    simpa using hlead

theorem isAbsolute_iff (p : HostPath) :
    p.isAbsolute = true ↔ p.components.head? = some .root := by
  obtain ⟨body, hbody, hcomponents⟩ := components_eq p
  rw [hcomponents]
  cases p.isAbsolute with
  | true => simp
  | false =>
    simp only [Bool.false_eq_true, if_false, List.nil_append, false_iff]
    intro hroot
    simpa [Component.Plain] using hbody .root (List.mem_of_mem_head? hroot)

theorem isAbsolute_normalize_iff (p : HostPath) :
    p.normalize.isAbsolute = true ↔ p.isAbsolute = true := by
  refine ⟨fun h => ?_, isAbsolute_normalize⟩
  rw [isAbsolute_iff, (components_normalize_eq p).2] at h
  by_contra hp
  rw [Bool.not_eq_true] at hp
  rw [hp] at h
  cases hodd : decide (p.climbs % 2 = 1) <;> simp_all [start]

/-- A normal form goes down the same names, and climbs once where an odd number were climbed. -/
theorem trail_normalize (p : HostPath) : p.normalize.trail = (p.climbs % 2, p.trail.2) := by
  have hnames (names : List String) (climbs : ℕ) (before : List String) :
      (names.map Component.name).foldl trailStep (climbs, before) =
        (climbs, names.reverse ++ before) := by
    induction names generalizing before with
    | nil => rfl
    | cons n names ih => simpa [trailStep] using ih (n :: before)
  have hstart : (start p.isAbsolute (p.climbs % 2 = 1)).foldl trailStep (0, []) =
      (p.climbs % 2, []) := by
    rcases Nat.mod_two_eq_zero_or_one p.climbs with h | h
    · rw [h]
      cases p.isAbsolute <;> rfl
    · rw [h]
      cases p.isAbsolute <;> rfl
  rw [trail, (components_normalize_eq p).2, List.foldl_append, hstart, hnames]
  simp

/-- A path whose normal form names the same place wherever it is read. -/
def Anchored (p : HostPath) : Prop := p.isAbsolute = true ∨ p.climbs ≤ 1

theorem anchored_join {d : HostPath} (hd : d.isAbsolute = true) (p : HostPath) :
    (d.join p).Anchored :=
  Or.inl (isAbsolute_join hd)

/-- A normal form names the same place as its path, read in a directory, unless the path climbs
several levels of which the normal form keeps one or none. -/
theorem place_join_normalize {b : HostPath} (hb : b.isAbsolute = true) (p : HostPath) :
    (b.join p.normalize).place = (b.join p).place ↔
      p.Anchored ∨ b.place = [] ∨ b.place.length = 1 ∧ p.climbs % 2 = 1 := by
  rw [place_join hb, place_join hb, foldl_placeStep_eq, foldl_placeStep_eq, climbs,
    trail_normalize, List.append_cancel_left_eq, Anchored]
  by_cases hp : p.isAbsolute = true
  · simp [hp, isAbsolute_normalize hp]
  · have hn : ¬p.normalize.isAbsolute = true := by rwa [isAbsolute_normalize_iff]
    rw [if_neg hp, if_neg hn, List.drop_eq_drop_iff]
    simp only [hp, Bool.false_eq_true, false_or, ← List.length_eq_zero_iff]
    omega

/-- Files that are named by one normal form lie in one place. -/
theorem place_eq_of_same {b p q : HostPath} (hb : b.isAbsolute = true) (hp : p.Anchored)
    (hq : q.Anchored) (h : p.normalize.same q.normalize = true) :
    (b.join p).place = (b.join q).place := by
  have heq := (same_normalize_iff p q).mp h
  calc (b.join p).place = (b.join p.normalize).place :=
        ((place_join_normalize hb p).mpr (Or.inl hp)).symm
    _ = (b.join q.normalize).place := by rw [heq]
    _ = (b.join q).place := (place_join_normalize hb q).mpr (Or.inl hq)

theorem eq_normalize_of_parse {entry origin : String} {dir path : HostPath}
    (h : PresetKey.parse entry dir origin = .ok (.file path)) :
    path = (dir.join ⟨entry⟩).normalize := by
  unfold PresetKey.parse at h
  split_ifs at h
  · cases h
  · exact (PresetKey.file.inj (Except.ok.inj h)).symm

/-- Wherever a path is read, its normal form names the same place if it is absolute or climbs one
level at most, and only then but for places so near the root that climbs are lost there anyway. So
entries that lead to different places have different keys, as long as they are read in absolute
directories, or lead no more than one level up from where the run starts. -/
theorem normalize_keeps_place_iff {b : HostPath} (hb : b.isAbsolute = true) :
    (∀ p : HostPath, (b.join p.normalize).place = (b.join p).place ↔
      p.Anchored ∨ b.place = [] ∨ b.place.length = 1 ∧ p.climbs % 2 = 1) ∧
    (∀ (dir dir' : HostPath) (entry entry' origin origin' : String) (path path' : HostPath),
      dir.isAbsolute = true ∨ (dir.join ⟨entry⟩).Anchored →
      dir'.isAbsolute = true ∨ (dir'.join ⟨entry'⟩).Anchored →
      PresetKey.parse entry dir origin = .ok (.file path) →
      PresetKey.parse entry' dir' origin' = .ok (.file path') →
      (PresetKey.file path).same (.file path') = true →
      (b.join (dir.join ⟨entry⟩)).place = (b.join (dir'.join ⟨entry'⟩)).place) := by
  refine ⟨place_join_normalize hb, ?_⟩
  intro dir dir' entry entry' origin origin' path path' hdir hdir' hkey hkey' hsame
  have hanchored := hdir.elim (fun h => anchored_join h ⟨entry⟩) id
  have hanchored' := hdir'.elim (fun h => anchored_join h ⟨entry'⟩) id
  obtain rfl := eq_normalize_of_parse hkey
  obtain rfl := eq_normalize_of_parse hkey'
  exact place_eq_of_same hb hanchored hanchored' hsame

/-- Two ways to name one preset, from two directories. -/
theorem normalize_keeps_place_shared :
    isAbsolute ⟨"/work"⟩ = true ∧
    (join ⟨"/work"⟩ (normalize ⟨"../a/../b"⟩)).place = (join ⟨"/work"⟩ ⟨"../a/../b"⟩).place ∧
    PresetKey.parse "../x.toml" ⟨"/p/a"⟩ "" = .ok (.file ⟨"/p/x.toml"⟩) ∧
    PresetKey.parse "./x.toml" ⟨"/p"⟩ "" = .ok (.file ⟨"/p/x.toml"⟩) ∧
    (join ⟨"/work"⟩ (join ⟨"/p/a"⟩ ⟨"../x.toml"⟩)).place =
      (join ⟨"/work"⟩ (join ⟨"/p"⟩ ⟨"./x.toml"⟩)).place := by
  have habs : isAbsolute ⟨"/work"⟩ = true := by decide +kernel
  have hclimbs : climbs ⟨"../a/../b"⟩ ≤ 1 := by decide +kernel
  have hfirst : PresetKey.parse "../x.toml" ⟨"/p/a"⟩ "" = .ok (.file ⟨"/p/x.toml"⟩) := by
    decide +kernel
  have hsecond : PresetKey.parse "./x.toml" ⟨"/p"⟩ "" = .ok (.file ⟨"/p/x.toml"⟩) := by
    decide +kernel
  obtain ⟨hplace, hkeys⟩ := normalize_keeps_place_iff habs
  exact ⟨habs, (hplace _).mpr (Or.inl (Or.inr hclimbs)), hfirst, hsecond,
    hkeys _ _ _ _ _ _ _ _ (Or.inl (by decide +kernel)) (Or.inl (by decide +kernel)) hfirst hsecond
      (by decide +kernel)⟩

/-- The second of two climbs takes the first one off, so that the normal form stays in the
directory, and two entries for different files have one key. -/
theorem normalize_loses_climbs :
    isAbsolute ⟨"/a/b"⟩ = true ∧
    normalize ⟨"../.."⟩ = ⟨""⟩ ∧
    (join ⟨"/a/b"⟩ (normalize ⟨"../.."⟩)).place = ["b", "a"] ∧
    (join ⟨"/a/b"⟩ ⟨"../.."⟩).place = [] ∧
    PresetKey.parse "../../x.toml" ⟨""⟩ "" = .ok (.file ⟨"x.toml"⟩) ∧
    PresetKey.parse "./x.toml" ⟨""⟩ "" = .ok (.file ⟨"x.toml"⟩) ∧
    (join ⟨"/a/b"⟩ (join ⟨""⟩ ⟨"../../x.toml"⟩)).place = ["x.toml"] ∧
    (join ⟨"/a/b"⟩ (join ⟨""⟩ ⟨"./x.toml"⟩)).place = ["x.toml", "b", "a"] := by
  decide +kernel

end HostPath
end TreeLint
