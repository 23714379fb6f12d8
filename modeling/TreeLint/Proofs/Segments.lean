import TreeLint.Proofs.Path

/-!
The text of a path, byte by byte. No character's bytes begin another's, and the byte of a slash
stands in no other character. So whether a path lies below another, what directory it lies in and
what it is called there can be found among its bytes, and what is found are its names.
-/
namespace TreeLint

section Bytes

def utf8Bytes (text : String) : List UInt8 := text.toUTF8.data.toList

/-- The byte that a slash is written as. -/
def slashByte : UInt8 := 0x2f

theorem utf8Bytes_eq (text : String) :
    utf8Bytes text = text.toList.flatMap String.utf8EncodeChar := by
  rw [utf8Bytes, String.toUTF8_eq_toByteArray, ← String.utf8Encode_toList]
  simp [List.utf8Encode]

theorem utf8EncodeChar_slash : String.utf8EncodeChar '/' = [slashByte] := by decide

/-- The first character can be told from the bytes alone. -/
theorem eq_of_utf8EncodeChar_append {c d : Char} {xs ys : List UInt8}
    (h : String.utf8EncodeChar c ++ xs = String.utf8EncodeChar d ++ ys) : c = d := by
  have hdecode (e : Char) (zs : List UInt8) :
      (String.utf8EncodeChar e ++ zs).toByteArray.utf8DecodeChar? 0 = some e := by
    rw [List.toByteArray_append, ← List.utf8Encode_singleton]
    exact List.utf8DecodeChar?_utf8Encode_singleton_append
  exact Option.some.inj ((hdecode c xs).symm.trans (h ▸ hdecode d ys))

/-- Texts begin with the same bytes only where they begin with the same characters. -/
theorem flatMap_utf8EncodeChar_isPrefix_iff {cs ds : List Char} :
    cs.flatMap String.utf8EncodeChar <+: ds.flatMap String.utf8EncodeChar ↔ cs <+: ds := by
  constructor
  · intro h
    induction cs generalizing ds with
    | nil => exact List.nil_prefix
    | cons c cs ih =>
      obtain ⟨rest, hrest⟩ := h
      rw [List.flatMap_cons, List.append_assoc] at hrest
      cases ds with
      | nil => simp at hrest
      | cons d ds =>
        rw [List.flatMap_cons] at hrest
        obtain rfl := eq_of_utf8EncodeChar_append hrest
        exact List.cons_prefix_cons.mpr ⟨rfl, ih ⟨rest, List.append_cancel_left hrest⟩⟩
  · rintro ⟨rest, rfl⟩
    rw [List.flatMap_append]
    exact List.prefix_append _ _

theorem slashByte_mem_utf8EncodeChar_iff (c : Char) :
    slashByte ∈ String.utf8EncodeChar c ↔ c = '/' := by
  have hbyte (n : ℕ) : slashByte = UInt8.ofNat n ↔ n % 256 = 47 := by
    rw [eq_comm, ← UInt8.toNat_inj, UInt8.toNat_ofNat']
    rfl
  constructor
  · intro h
    simp only [String.utf8EncodeChar] at h
    split_ifs at h <;> simp only [List.mem_cons, List.not_mem_nil, or_false, hbyte] at h
    · have hcode : c.val.toNat = 47 := by omega
      exact Char.ext (UInt32.toNat_inj.mp hcode)
    -- each byte of a longer encoding is 128 or more
    all_goals omega
  · rintro rfl
    decide

theorem slashByte_mem_utf8Bytes_iff (text : String) :
    slashByte ∈ utf8Bytes text ↔ '/' ∈ text.toList := by
  simp [utf8Bytes_eq, slashByte_mem_utf8EncodeChar_iff]

end Bytes

theorem append_singleton_isPrefix_iff {α : Type} {xs ys : List α} {x : α} :
    xs ++ [x] <+: ys ↔ xs <+: ys ∧ ys[xs.length]? = some x := by
  constructor
  · rintro ⟨rest, rfl⟩
    rw [List.append_assoc]
    exact ⟨List.prefix_append _ _, by simp⟩
  · rintro ⟨⟨rest, rfl⟩, hx⟩
    cases rest with
    | nil => simp at hx
    | cons y rest =>
      obtain rfl : y = x := by simpa using hx
      exact ⟨rest, by simp⟩

/-- A text with a slash is cut at the last one. -/
theorem exists_cut_of_mem {cs : List Char} (h : '/' ∈ cs) :
    ∃ before after, cs = before ++ '/' :: after ∧ '/' ∉ after := by
  obtain ⟨after, before, hcs, hafter⟩ := List.eq_append_cons_of_mem (List.mem_reverse.mpr h)
  refine ⟨before.reverse, after.reverse, ?_, by simpa using hafter⟩
  simpa using congrArg List.reverse hcs

namespace ProjectPath

/-- To lie at or below a directory, told by bytes: other than the directory itself, the path begins
with the bytes of the directory, and the next one is that of a slash. -/
def LiesBelowBytes (p dir : ProjectPath) : Prop :=
  dir = root ∨ p = dir ∨ utf8Bytes dir.text <+: utf8Bytes p.text ∧
    (utf8Bytes p.text)[(utf8Bytes dir.text).length]? = some slashByte

theorem startsWith_iff_bytes (p dir : ProjectPath) :
    p.startsWith dir = true ↔ p.LiesBelowBytes dir := by
  have hslash : utf8Bytes dir.text ++ [slashByte] =
      (dir.text.toList ++ ['/']).flatMap String.utf8EncodeChar := by
    rw [utf8Bytes_eq, List.flatMap_append, List.flatMap_singleton, utf8EncodeChar_slash]
  simp only [startsWith, Bool.or_eq_true, isRoot_iff, decide_eq_true_eq,
    List.isPrefixOf_iff_prefix, or_assoc, LiesBelowBytes]
  rw [← append_singleton_isPrefix_iff, hslash, utf8Bytes_eq, flatMap_utf8EncodeChar_isPrefix_iff]

/-- The last slash among the bytes stands between the directory and the name. Without a slash all
of the path is its name in the root. -/
structure CutAtLastSlash (p : ProjectPath) : Prop where
  fileName : slashByte ∉ utf8Bytes p.fileName
  cut : slashByte ∈ utf8Bytes p.text →
    utf8Bytes p.text = utf8Bytes p.parent.text ++ slashByte :: utf8Bytes p.fileName
  uncut : slashByte ∉ utf8Bytes p.text → p.parent = root ∧ p.fileName = p.text

theorem cutAtLastSlash (p : ProjectPath) : p.CutAtLastSlash := by
  by_cases hslash : '/' ∈ p.text.toList
  · obtain ⟨before, after, htext, hafter⟩ := exists_cut_of_mem hslash
    have hsplit : splitLast p.text.toList = (some before, after) := by
      rw [htext, splitLast_append before hafter]
    have hparent : p.parent.text.toList = before := by simp [parent, hsplit]
    have hname : p.fileName.toList = after := by simp [fileName, hsplit]
    refine ⟨?_, fun _ => ?_, fun huncut => ?_⟩
    · rwa [slashByte_mem_utf8Bytes_iff, hname]
    · rw [utf8Bytes_eq, utf8Bytes_eq, utf8Bytes_eq, hparent, hname, htext, List.flatMap_append,
        List.flatMap_cons, utf8EncodeChar_slash, List.singleton_append]
    · exact absurd ((slashByte_mem_utf8Bytes_iff p.text).mpr hslash) huncut
  · have hsplit := splitLast_of_not_mem hslash
    have hparent : p.parent = root := by simp [parent, hsplit]
    have hname : p.fileName = p.text := by simp [fileName, hsplit]
    have huncut : slashByte ∉ utf8Bytes p.text := by rwa [slashByte_mem_utf8Bytes_iff]
    exact ⟨by rwa [hname], fun h => absurd h huncut, fun _ => ⟨hparent, hname⟩⟩

theorem Canonical.getLast?_segments {p : ProjectPath} (h : p.Canonical) (hroot : p ≠ root) :
    p.segments.getLast? = some p.fileName := by
  obtain ⟨names, hnames, rfl⟩ := h
  rcases List.eq_nil_or_concat' names with rfl | ⟨before, last, rfl⟩
  · exact absurd ofSegments_nil hroot
  · rw [segments_ofSegments hnames, fileName_ofSegments before (hnames last (by simp))]
    simp

/-- A canonical path is its names with slashes between them. One lies at or below another when it
begins with the other's names, and its directory, its name there and the way back are those of the
list of names. All of them can be found among the bytes of the text. -/
theorem segments_exact {a b : ProjectPath} (ha : a.Canonical) (hb : b.Canonical) :
    (∀ n ∈ a.segments, IsName n) ∧ "/".intercalate a.segments = a.text ∧
    (a.startsWith b = true ↔ b.segments <+: a.segments) ∧
    (a ≠ root →
      a.parent.segments = a.segments.dropLast ∧ a.segments.getLast? = some a.fileName ∧
        a.parent.join a.fileName = a) ∧
    (a.startsWith b = true ↔ a.LiesBelowBytes b) ∧ a.CutAtLastSlash := by
  refine ⟨ha.isName, congrArg text ha.ofSegments_segments, startsWith_iff ha hb, fun hroot => ?_,
    startsWith_iff_bytes a b, cutAtLastSlash a⟩
  exact ⟨ha.segments_parent, ha.getLast?_segments hroot, (ha.join_fileName hroot).2⟩

/-- Directories whose names begin alike, and with characters of two bytes. -/
theorem segments_exact_alike :
    Canonical ⟨"café/cafés/à.ts"⟩ ∧ Canonical ⟨"café/café"⟩ ∧
    (⟨"café/cafés/à.ts"⟩ : ProjectPath) ≠ root ∧
    startsWith ⟨"café/cafés/à.ts"⟩ ⟨"café/café"⟩ = false ∧
    ¬LiesBelowBytes ⟨"café/cafés/à.ts"⟩ ⟨"café/café"⟩ ∧
    (parent ⟨"café/cafés/à.ts"⟩).segments = ["café", "cafés"] ∧
    fileName ⟨"café/cafés/à.ts"⟩ = "à.ts" ∧
    (parent ⟨"café/cafés/à.ts"⟩).join (fileName ⟨"café/cafés/à.ts"⟩) = ⟨"café/cafés/à.ts"⟩ := by
  have ha : Canonical ⟨"café/cafés/à.ts"⟩ :=
    canonical_of_normalize? (by decide : normalize? "café/cafés/à.ts" = some ⟨"café/cafés/à.ts"⟩)
  have hb : Canonical ⟨"café/café"⟩ :=
    canonical_of_normalize? (by decide : normalize? "café/café" = some ⟨"café/café"⟩)
  have hroot : (⟨"café/cafés/à.ts"⟩ : ProjectPath) ≠ root := by decide
  have hnames : segments ⟨"café/cafés/à.ts"⟩ = ["café", "cafés", "à.ts"] := by decide
  have hapart : ¬segments ⟨"café/café"⟩ <+: segments ⟨"café/cafés/à.ts"⟩ := by decide
  obtain ⟨-, -, hbelow, hlast, hbytes, -⟩ := segments_exact ha hb
  obtain ⟨hparent, hname, hjoin⟩ := hlast hroot
  rw [hnames] at hparent hname
  exact ⟨ha, hb, hroot, Bool.eq_false_iff.mpr (mt hbelow.mp hapart),
    mt (hbelow.mp ∘ hbytes.mpr) hapart, hparent, (Option.some.inj hname).symm, hjoin⟩

end ProjectPath
end TreeLint
