import TreeLint.Proofs.Cycle
import TreeLint.Proofs.Load

/-!
How many paths lead to a file on a disk. Between two links a path only goes down, by names that stand
on the disk, so that a path in normal form has a bounded number of names to choose from and a bounded
length. That makes the presets on a disk a bounded source, and the walk over them comes to an end.
-/
namespace TreeLint

namespace DiskNode

mutual

/-- The names of all entries below a node. -/
def names : DiskNode → List String
  | .dir es => namesOfAll es
  | _ => []

def namesOfAll : List (String × DiskNode) → List String
  | [] => []
  | (name, n) :: rest => name :: (n.names ++ namesOfAll rest)

end

mutual

theorem length_names : ∀ n : DiskNode, n.names.length = n.size
  | .dir es => length_namesOfAll es
  | .file _ => rfl
  | .link _ => rfl

theorem length_namesOfAll : ∀ es : List (String × DiskNode),
    (namesOfAll es).length = sizeOfAll es
  | [] => rfl
  | (_, n) :: rest => by
    simp only [namesOfAll, sizeOfAll, List.length_cons, List.length_append, length_names n,
      length_namesOfAll rest]
    omega

end

theorem mem_names_of_entry {node child : DiskNode} {name : String}
    (h : (name, child) ∈ node.entries) : name ∈ node.names ∧ child.names ⊆ node.names := by
  cases node with
  | file text => cases h
  | link target => cases h
  | dir es =>
    simp only [entries] at h
    simp only [names]
    induction es with
    | nil => cases h
    | cons entry rest ih =>
      obtain ⟨first, n⟩ := entry
      simp only [namesOfAll]
      rcases List.mem_cons.mp h with heq | h
      · obtain ⟨rfl, rfl⟩ := Prod.mk.inj heq
        exact ⟨List.mem_cons_self, fun s hs => by simp [hs]⟩
      · obtain ⟨hname, hsub⟩ := ih h
        exact ⟨by simp [hname], fun s hs => by simp [hsub hs]⟩

theorem depth_lt_of_entry {node child : DiskNode} {name : String}
    (h : (name, child) ∈ node.entries) : child.depth < node.depth := by
  cases node with
  | file text => cases h
  | link target => cases h
  | dir es =>
    simp only [entries] at h
    simp only [depth, Nat.lt_succ_iff]
    induction es with
    | nil => cases h
    | cons entry rest ih =>
      obtain ⟨first, n⟩ := entry
      simp only [depthOfAll]
      rcases List.mem_cons.mp h with heq | h
      · obtain ⟨rfl, rfl⟩ := Prod.mk.inj heq
        exact Nat.le_max_left _ _
      · exact (ih h).trans (Nat.le_max_right _ _)

end DiskNode

namespace Disk

/-- A place on a disk, with places on the disk on the way back. -/
def Within (d : Disk) (place : DiskPlace) : Prop :=
  ∀ node ∈ place.node :: place.above, node.depth ≤ d.top.depth ∧ node.names ⊆ d.top.names

theorem within_top (d : Disk) : d.Within ⟨d.top, [], []⟩ := by
  intro node hnode
  obtain rfl : node = d.top := by simpa using hnode
  exact ⟨le_rfl, List.Subset.refl _⟩

theorem Within.up {d : Disk} {place : DiskPlace} (h : d.Within place) : d.Within place.up := by
  intro node hnode
  unfold DiskPlace.up at hnode
  split at hnode
  · exact h node hnode
  · rename_i above habove
    exact h node (List.mem_cons_of_mem _ (habove ▸ hnode))

theorem Within.down {d : Disk} {place : DiskPlace} (h : d.Within place) {name : String}
    {child : DiskNode} (hchild : (name, child) ∈ place.node.entries) :
    d.Within (place.down name child) := by
  obtain ⟨hdepth, hnames⟩ := h place.node (by simp)
  intro node hnode
  rcases List.mem_cons.mp hnode with rfl | hnode
  · exact ⟨(DiskNode.depth_lt_of_entry hchild).le.trans hdepth,
      List.Subset.trans (DiskNode.mem_names_of_entry hchild).2 hnames⟩
  · exact h node hnode

/-- How far the pieces behind `pre` can lead down from a place. -/
def room (d : Disk) (place : DiskPlace) : (pre : List String) → ℕ
  | [] => place.node.depth
  | _ :: _ => d.top.depth

theorem Within.room_le {d : Disk} {place : DiskPlace} (h : d.Within place) (pre : List String) :
    d.room place pre ≤ d.top.depth := by
  cases pre with
  | nil => exact (h place.node (by simp)).1
  | cons piece pre => exact le_rfl

/-- The names that a path ends in stand on the disk. Without a link there are no more of them than
directories in one another, and each link lets the path start again. -/
theorem names_of_follow {d : Disk} {links : ℕ} {place target : DiskPlace}
    {way pre names : List String} (h : d.follow links place way = .ok target)
    (hplace : d.Within place) (hway : way = pre ++ names)
    (hnames : ∀ n ∈ names, (HostPath.Component.name n).Plain) :
    (∀ n ∈ names, n ∈ d.top.names) ∧
      names.length ≤ d.room place pre + links * (d.top.depth + 1) := by
  fun_induction d.follow links place way generalizing pre names with
  | case1 links place =>
    obtain ⟨rfl, rfl⟩ := List.append_eq_nil_iff.mp hway.symm
    simp
  | case2 => cases h
  | case3 links place piece rest hdir hfiller ih =>
    cases pre with
    | nil =>
      subst hway
      obtain ⟨hempty, hhere, -⟩ := hnames piece (by simp)
      exact absurd hfiller (by simp [hempty, hhere])
    | cons first pre =>
      obtain ⟨rfl, rfl⟩ := List.cons.inj hway
      obtain ⟨hmem, hlength⟩ := ih h hplace rfl hnames
      exact ⟨hmem, hlength.trans (Nat.add_le_add_right (hplace.room_le pre) _)⟩
  | case4 links place rest hdir hfiller ih =>
    cases pre with
    | nil =>
      subst hway
      exact absurd rfl (hnames ".." (by simp)).2.2.1
    | cons first pre =>
      obtain ⟨rfl, rfl⟩ := List.cons.inj hway
      obtain ⟨hmem, hlength⟩ := ih h hplace.up rfl hnames
      exact ⟨hmem, hlength.trans (Nat.add_le_add_right (hplace.up.room_le pre) _)⟩
  | case5 => cases h
  | case6 => cases h
  | case7 place piece rest hdir hfiller hup link hfound n ih =>
    simp only [dite_eq_ite] at ih
    have hentry := Ascending.mem_of_find? hfound
    have hstart : d.Within
        (if link.toList.head? = some '/' then ⟨d.top, [], []⟩ else place) := by
      split_ifs
      · exact d.within_top
      · exact hplace
    cases pre with
    | nil =>
      subst hway
      obtain ⟨hmem, hlength⟩ := ih h hstart rfl fun n hn => hnames n (by simp [hn])
      have hroom := hstart.room_le (pieces link)
      refine ⟨List.forall_mem_cons.mpr ⟨?_, hmem⟩, ?_⟩
      · exact (hplace place.node (by simp)).2 (DiskNode.mem_names_of_entry hentry).1
      · rw [List.length_cons, Nat.succ_mul]
        omega
    | cons first pre =>
      obtain ⟨rfl, rfl⟩ := List.cons.inj hway
      obtain ⟨hmem, hlength⟩ := ih h hstart (List.append_assoc _ _ _).symm hnames
      have hroom := hstart.room_le (pieces link ++ pre)
      refine ⟨hmem, ?_⟩
      rw [room, Nat.succ_mul]
      omega
  | case8 links place piece rest hdir hfiller hup node hnolink hfound ih =>
    have hentry := Ascending.mem_of_find? hfound
    have hdown := hplace.down hentry
    cases pre with
    | nil =>
      subst hway
      obtain ⟨hmem, hlength⟩ := ih h hdown (List.nil_append rest).symm fun n hn =>
        hnames n (by simp [hn])
      refine ⟨List.forall_mem_cons.mpr ⟨?_, hmem⟩, ?_⟩
      · exact (hplace place.node (by simp)).2 (DiskNode.mem_names_of_entry hentry).1
      · have hdepth := DiskNode.depth_lt_of_entry hentry
        simp only [room, DiskPlace.down] at hlength ⊢
        rw [List.length_cons]
        omega
    | cons first pre =>
      obtain ⟨rfl, rfl⟩ := List.cons.inj hway
      obtain ⟨hmem, hlength⟩ := ih h hdown rfl hnames
      exact ⟨hmem, hlength.trans (Nat.add_le_add_right (hdown.room_le pre) _)⟩

section
open HostPath

/-- The text of a normal form has its names as its last pieces. -/
theorem pieces_ofComponents {names : List String} (hnames : ∀ n ∈ names, (Component.name n).Plain)
    (rooted climbs : Bool) : ∃ pre : List String,
      pieces (ofComponents (start rooted climbs ++ names.map .name)).text = pre ++ names := by
  have hbody : ∀ c ∈ start false climbs ++ names.map Component.name, c.Plain := by
    intro c hc
    rcases List.mem_append.mp hc with hc | hc
    · cases climbs
      · simp [start] at hc
      · obtain rfl : c = .up := by simpa [start] using hc
        trivial
    · obtain ⟨n, hn, rfl⟩ := List.mem_map.mp hc
      exact hnames n hn
  have htexts : (start false climbs ++ names.map Component.name).map Component.text =
      (start false climbs).map Component.text ++ names := by
    simp [Function.comp_def, Component.text]
  have hplain : ∃ pre : List String, pieces ("/".intercalate
      ((start false climbs ++ names.map Component.name).map Component.text)) = pre ++ names := by
    by_cases hnil : start false climbs ++ names.map Component.name = []
    · obtain rfl : names = [] := by simpa using (List.append_eq_nil_iff.mp hnil).2
      exact ⟨_, (List.append_nil _).symm⟩
    · exact ⟨_, (splitOn_intercalate_text hbody hnil).trans htexts⟩
  cases rooted with
  | false => rwa [ofComponents_plain hbody]
  | true =>
    obtain ⟨pre, hpre⟩ := hplain
    have htext : (ofComponents (start true climbs ++ names.map .name)).text.toList =
        '/' :: ("/".intercalate ((start false climbs ++ names.map Component.name).map
          Component.text)).toList := by
      simp [start, ofComponents]
    refine ⟨"" :: pre, ?_⟩
    rw [pieces, htext, List.splitOn_cons_eq_if_modifyHead]
    simpa [pieces] using hpre

/-- The lists over an alphabet with fewer than `n` members. -/
def shortLists (alphabet : List String) : (n : ℕ) → List (List String)
  | 0 => []
  | n + 1 => [] :: alphabet.flatMap fun s => (shortLists alphabet n).map (s :: ·)

theorem mem_shortLists {alphabet names : List String} {n : ℕ}
    (hmem : ∀ s ∈ names, s ∈ alphabet) (hlength : names.length < n) :
    names ∈ shortLists alphabet n := by
  induction n generalizing names with
  | zero => simp at hlength
  | succ n ih =>
    cases names with
    | nil => exact List.mem_cons_self
    | cons s names =>
      obtain ⟨hs, hnames⟩ := List.forall_mem_cons.mp hmem
      exact List.mem_cons_of_mem _ (List.mem_flatMap.mpr
        ⟨s, hs, List.mem_map_of_mem (ih hnames (Nat.lt_of_succ_lt_succ hlength))⟩)

theorem length_shortLists_le (alphabet : List String) (n : ℕ) :
    (shortLists alphabet n).length ≤ (alphabet.length + 1) ^ n := by
  induction n with
  | zero => simp [shortLists]
  | succ n ih =>
    have hpos : 0 < (alphabet.length + 1) ^ n := Nat.pow_pos (Nat.succ_pos _)
    calc (shortLists alphabet (n + 1)).length
        = alphabet.length * (shortLists alphabet n).length + 1 := by
          simp [shortLists, List.length_flatMap]
      _ ≤ alphabet.length * (alphabet.length + 1) ^ n + (alphabet.length + 1) ^ n :=
          Nat.add_le_add (Nat.mul_le_mul_left _ ih) hpos
      _ = (alphabet.length + 1) ^ (n + 1) := by
          rw [Nat.pow_succ, Nat.mul_succ, Nat.mul_comm alphabet.length]

/-- The paths in normal form that may lead anywhere on a disk. -/
def normalPaths (d : Disk) : List HostPath :=
  [true, false].flatMap fun rooted => [true, false].flatMap fun climbs =>
    (shortLists d.top.names ((maxLinks + 1) * (d.top.depth + 1))).map fun names =>
      ofComponents (start rooted climbs ++ names.map .name)

theorem length_normalPaths_le (d : Disk) : d.normalPaths.length ≤ d.pathCount := by
  have hcount : d.normalPaths.length =
      4 * (shortLists d.top.names ((maxLinks + 1) * (d.top.depth + 1))).length := by
    simp only [normalPaths, List.flatMap_cons, List.flatMap_nil, List.length_append,
      List.length_map, List.length_nil]
    omega
  rw [hcount, pathCount, ← DiskNode.length_names]
  exact Nat.mul_le_mul_left 4 (length_shortLists_le _ _)

theorem mem_normalPaths {d : Disk} {p : HostPath} {text : String}
    (h : d.read p.normalize = .ok text) : p.normalize ∈ d.normalPaths := by
  obtain ⟨climbs, names, hplain, heq⟩ := normalize_eq_start p
  obtain ⟨target, -, hfollow⟩ := place_of_read h
  obtain ⟨pre, hpieces⟩ := pieces_ofComponents hplain p.isAbsolute climbs
  rw [heq, hpieces] at hfollow
  obtain ⟨hmem, hlength⟩ := names_of_follow hfollow d.within_top rfl hplain
  have hroom := d.within_top.room_le pre
  have hshort : names.length < (maxLinks + 1) * (d.top.depth + 1) := by
    rw [Nat.succ_mul]
    omega
  rw [heq, normalPaths]
  simp only [List.mem_flatMap, List.mem_map]
  exact ⟨p.isAbsolute, by cases p.isAbsolute <;> simp, climbs, by cases climbs <;> simp, names,
    mem_shortLists hmem hshort, rfl⟩

/-- The presets that can be read from a disk are no more than the walk over them takes into
account. -/
theorem presets_bounded [Explanations] (d : Disk) : d.presets.Bounded := by
  refine PresetSource.bounded_of_list
    (show ∀ key, d.presets.Loadable key →
      key ∈ d.normalPaths.map .file ++ Preset.names.map .builtin from ?_) ?_
  · rintro key ⟨hnormal, document, origin, hload⟩
    cases key with
    | builtin name =>
      exact List.mem_append_right _
        (List.mem_map_of_mem (PresetSource.mem_builtins_of_loadBuiltin hload))
    | file path =>
      obtain ⟨p, rfl⟩ := hnormal
      refine List.mem_append_left _ (List.mem_map_of_mem ?_)
      cases hread : d.read p.normalize with
      | ok text => exact mem_normalPaths hread
      | error fault => cases fault <;> simp [presets, readDocument, hread] at hload
  · have hsize : d.presets.size = d.pathCount + Preset.builtins.length := rfl
    have hpaths := d.length_normalPaths_le
    simp only [hsize, Preset.names, List.length_append, List.length_map]
    omega

end

/-- On any disk the walk over presets ends. Where all that is come to can be read it succeeds just
when nothing reachable extends itself in the end or stands in the ancestry, and when it fails it
shows a cycle. -/
theorem presets_ok_iff_acyclic [Explanations] (d : Disk) {edge : PresetKey → PresetKey → Prop}
    {dir : HostPath} {entries : List String} {ancestry : List PresetKey}
    (hlineage : d.presets.Lineage edge dir entries ancestry) :
    d.presets.Walks ({key | d.presets.Loadable key}.ncard + 1) dir ancestry [] entries
      (d.presets.resolve entries dir ancestry) ∧
    (d.presets.Resolvable dir ancestry entries →
      ((∃ resolved, d.presets.resolve entries dir ancestry = .ok resolved) ↔
        ∀ key, d.presets.Reachable dir entries key →
          ¬Relation.TransGen d.presets.Extends key key ∧ ∀ a ∈ ancestry, a.same key = false) ∧
      ∀ error, d.presets.resolve entries dir ancestry = .error error →
        ∃ keys : List PresetKey, error = .cycle (keys.map PresetKey.display) ∧
          PresetSource.IsCycle edge keys) := by
  have hbounded := d.presets_bounded
  refine ⟨PresetSource.walks_resolve hbounded, fun hresolvable => ?_⟩
  exact ⟨PresetSource.exists_resolve_iff hbounded hresolvable d.presets_selfContained,
    fun _ => PresetSource.isCycle_of_resolve hbounded hresolvable hlineage⟩

end Disk
end TreeLint
