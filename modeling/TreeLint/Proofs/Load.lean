import Mathlib.Data.List.TakeWhile
import TreeLint.Config.Load
import TreeLint.Proofs.Chain

/-!
The presets on a disk. Only the top of a disk has no directory that it lies in, and the top is no
file, so that the entries of every preset that can be read have a directory to be read in.
-/
namespace TreeLint

namespace HostPath

theorem pieces_isFiller_of_parent?_eq_none {p : HostPath} (h : p.parent? = none) :
    ∀ piece ∈ p.pieces, isFiller piece = true := by
  unfold parent? at h
  split at h
  · rename_i hnil
    intro piece hpiece
    exact List.dropWhile_eq_nil_iff.mp hnil piece (List.mem_reverse.mpr hpiece)
  · cases h

end HostPath

namespace Disk

/-- Pieces that name nothing lead nowhere else. -/
theorem follow_filler {d : Disk} {links : Nat} {place target : DiskPlace} {way : List String}
    (hway : ∀ piece ∈ way, HostPath.isFiller piece = true)
    (h : d.follow links place way = .ok target) : target = place := by
  induction way with
  | nil =>
    rw [follow] at h
    exact (Except.ok.inj h).symm
  | cons piece rest ih =>
    have hpiece : piece = "" ∨ piece = "." := by
      simpa [HostPath.isFiller] using hway piece (by simp)
    rw [follow] at h
    split_ifs at h
    exact ih (fun piece hmem => hway piece (by simp [hmem])) h

theorem isDir_of_follow {d : Disk} {links : Nat} {place target : DiskPlace} {way : List String}
    (hne : way ≠ []) (h : d.follow links place way = .ok target) : place.node.isDir = true := by
  obtain ⟨piece, rest, rfl⟩ := List.exists_cons_of_ne_nil hne
  rw [follow] at h
  by_contra hdir
  rw [Bool.not_eq_true] at hdir
  rw [if_pos (by simp [hdir])] at h
  cases h

theorem pieces_isFiller {p : HostPath} (h : ∀ piece ∈ p.pieces, HostPath.isFiller piece = true) :
    ∀ piece ∈ pieces p.text, HostPath.isFiller piece = true := by
  intro piece hmem
  by_cases habs : p.isAbsolute = true
  · -- the empty text in front of the leading slash is the one more piece
    have htail : p.pieces = (pieces p.text).tail := by simp [HostPath.pieces, pieces, habs]
    have hhead : (pieces p.text).head? = some "" := by
      obtain ⟨rest, hrest⟩ : ∃ rest, p.text.toList = '/' :: rest :=
        List.head?_eq_some_iff.mp (by simpa [HostPath.isAbsolute] using habs)
      rw [pieces, hrest, List.splitOn_cons_eq_if_modifyHead]
      simp
    rcases List.mem_cons.mp (List.eq_cons_of_mem_head? hhead ▸ hmem) with rfl | hmem
    · rfl
    · exact h piece (htail ▸ hmem)
  · have heq : p.pieces = pieces p.text := by simp [HostPath.pieces, pieces, habs]
    exact h piece (heq ▸ hmem)

theorem place_of_read {d : Disk} {p : HostPath} {text : String} (h : d.read p = .ok text) :
    ∃ target, d.place p = .ok target ∧
      d.follow maxLinks ⟨d.top, [], []⟩ (pieces p.text) = .ok target := by
  obtain ⟨target, hplace, -⟩ := bind_ok_iff.mp h
  refine ⟨target, hplace, ?_⟩
  unfold place at hplace
  split_ifs at hplace
  exact hplace

/-- Whatever can be read lies in a directory. -/
theorem parent?_of_read {d : Disk} {p : HostPath} {text : String} (h : d.read p = .ok text) :
    p.parent?.isSome = true := by
  cases hparent : p.parent? with
  | some parent => rfl
  | none =>
    have hfiller := pieces_isFiller (HostPath.pieces_isFiller_of_parent?_eq_none hparent)
    have hne : pieces p.text ≠ [] := by simp [pieces]
    obtain ⟨target, hplace, hfollow⟩ := place_of_read h
    have hdir := isDir_of_follow hne hfollow
    obtain rfl := follow_filler hfiller hfollow
    unfold read at h
    cases htop : d.top with
    | dir entries =>
      rw [hplace] at h
      simp [htop, bind, Except.bind, throw, throwThe, MonadExceptOf.throw] at h
    | file text => simp [htop, DiskNode.isDir] at hdir
    | link target => simp [htop, DiskNode.isDir] at hdir

theorem presets_selfContained [Explanations] (d : Disk) : d.presets.SelfContained where
  builtins := by
    rintro name document ⟨origin, hload⟩ entry hentry
    exact PresetSource.loadBuiltin_bases hload hentry
  files := by
    rintro path document ⟨origin, hload⟩
    cases hread : d.read path with
    | ok text => exact parent?_of_read hread
    | error fault =>
      cases fault <;> simp [presets, readDocument, hread] at hload

/-- The presets on a disk that a document extends are those that can be reached from its entries,
once each, and every one stands after all that it extends in the end. -/
theorem presets_order [Explanations] (d : Disk) {entries : List String} {dir : HostPath}
    {ancestry : List PresetKey} {resolved : List ResolvedPreset}
    (h : d.presets.resolve entries dir ancestry = .ok resolved) :
    (∀ key, key ∈ resolved.map ResolvedPreset.key ↔ d.presets.Reachable dir entries key) ∧
    (resolved.Pairwise fun p q => p.key.same q.key = false) ∧
    (∀ preset ∈ resolved, d.presets.Loads preset.key preset.document ∧
      ∀ a ∈ ancestry, a.same preset.key = false) ∧
    ∀ i, ∀ hi : i < resolved.length, ∀ base,
      Relation.TransGen d.presets.Extends resolved[i].key base →
        ∃ j, ∃ hj : j < i, (resolved.get ⟨j, hj.trans hi⟩).key = base := by
  have hordered := PresetSource.ordered_of_resolve d.presets_selfContained h
  refine ⟨PresetSource.mem_keys_resolve_iff d.presets_selfContained h, hordered.distinct,
    fun preset hmem => ?_, fun i hi base => hordered.before hi⟩
  exact ⟨hordered.loads preset hmem, PresetSource.off_ancestry_of_resolve h hmem⟩

end Disk
end TreeLint
