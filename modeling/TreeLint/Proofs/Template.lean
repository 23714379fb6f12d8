import Mathlib.Data.List.TakeWhile
import TreeLint.Proofs.RelativePath
import TreeLint.Proofs.Results
import TreeLint.Template

/-!
Which texts are templates, and what a template stands for. A template is any text that is written
from pieces without braces and from placeholders. It expands to the path that the text leads to once
every placeholder is replaced, in whichever way the text is written from pieces.
-/
namespace TreeLint

namespace TemplatePart

/-- A part as it stands in a template. -/
def written : TemplatePart → String
  | .text s => s
  | .hole p => p.written

/-- What is put in place of a part. -/
def filled (value : Placeholder → String) : TemplatePart → String
  | .text s => s
  | .hole p => value p

end TemplatePart

namespace PathTemplate

/-- Characters without a brace among them. -/
def Unbraced (cs : List Char) : Prop := '\x7b' ∉ cs ∧ '\x7d' ∉ cs

/-- The text is written from these parts, and only their placeholders bring braces into it. -/
def Spells (parts : List TemplatePart) (text : String) : Prop :=
  (∀ s, .text s ∈ parts → Unbraced s.toList) ∧
    String.join (parts.map TemplatePart.written) = text

section Reading

theorem unbraced_cons {c : Char} {cs : List Char} :
    Unbraced (c :: cs) ↔ (c ≠ '\x7b' ∧ c ≠ '\x7d') ∧ Unbraced cs := by
  simp only [Unbraced, List.mem_cons, not_or, eq_comm (b := c)]
  tauto

theorem key_of_ofKey? {key : String} {p : Placeholder} (h : Placeholder.ofKey? key = some p) :
    p.key = key := by
  simpa using List.find?_some h

theorem unbraced_of_mem_flush {seen : List Char} (h : Unbraced seen) {s : String}
    (hs : .text s ∈ flush seen) : Unbraced s.toList := by
  unfold flush at hs
  split_ifs at hs
  · simp at hs
  · obtain rfl : s = String.ofList seen.reverse := by simpa using hs
    simpa [Unbraced] using h

/-- Text that was read comes out as it is, whatever its part stands for. -/
theorem flatMap_flush (f : TemplatePart → String) (hf : ∀ s, f (.text s) = s) (seen : List Char) :
    (flush seen).flatMap (fun part => (f part).toList) = seen.reverse := by
  unfold flush
  split_ifs with hempty
  · simp [List.isEmpty_iff.mp hempty]
  · simp [hf]

/-- What was read and not given out as a part. -/
def pending (seen : List Char) : Option (List Char) → List Char
  | none => seen.reverse
  | some key => '\x7b' :: key.reverse

/-- Nothing is lost in reading, and every brace is that of a placeholder. -/
theorem read_sound {key : Option (List Char)} {seen cs : List Char} {parts : List TemplatePart}
    (hseen : Unbraced seen) (h : read key seen cs = .ok parts) :
    (∀ s, .text s ∈ parts → Unbraced s.toList) ∧
      parts.flatMap (fun part => part.written.toList) = pending seen key ++ cs := by
  have hnil : Unbraced [] := by simp [Unbraced]
  fun_induction read key seen cs generalizing parts with
  -- at the end of the text no placeholder may be open
  | case1 key seen hopen => simp at h
  | case2 key seen hopen =>
    obtain rfl := Except.ok.inj h
    obtain rfl : key = none := by simpa using hopen
    exact ⟨fun s => unbraced_of_mem_flush hseen,
      by simp [flatMap_flush TemplatePart.written (fun _ => rfl), pending]⟩
  -- in a placeholder: it is closed, by a known name or not, or goes on
  | case3 seen rest reversed key p hp =>
    rename_i ih
    obtain ⟨more, hmore, rfl⟩ := map_ok_iff.mp h
    obtain ⟨hplain, hchars⟩ := ih hnil hmore
    refine ⟨fun s hs => hplain s (by simpa using hs), ?_⟩
    have hkey : p.key = String.ofList reversed.reverse := key_of_ofKey? hp
    rw [List.flatMap_cons, hchars]
    simp [pending, TemplatePart.written, Placeholder.written, hkey]
  | case4 => simp at h
  | case5 seen c rest reversed hclose ih =>
    obtain ⟨hplain, hchars⟩ := ih hnil h
    exact ⟨hplain, by simpa [pending] using hchars⟩
  -- outside: a brace that closes nothing, one that opens, and plain text
  | case6 => simp at h
  | case7 seen rest _ ih =>
    obtain ⟨more, hmore, rfl⟩ := map_ok_iff.mp h
    obtain ⟨hplain, hchars⟩ := ih hnil hmore
    refine ⟨fun s hs => ?_, ?_⟩
    · rcases List.mem_append.mp hs with hs | hs
      · exact unbraced_of_mem_flush hseen hs
      · exact hplain s hs
    · simp [flatMap_flush TemplatePart.written (fun _ => rfl), hchars, pending]
  | case8 seen c rest hclose hopen ih =>
    obtain ⟨hplain, hchars⟩ := ih (unbraced_cons.mpr ⟨⟨hopen, hclose⟩, hseen⟩) h
    exact ⟨hplain, by simpa [pending] using hchars⟩

/-- Text without braces is taken up as it is. -/
theorem read_text {cs : List Char} (h : Unbraced cs) (seen rest : List Char) :
    read none seen (cs ++ rest) = read none (cs.reverse ++ seen) rest := by
  induction cs generalizing seen with
  | nil => rfl
  | cons c cs ih =>
    obtain ⟨⟨hopen, hclose⟩, hcs⟩ := unbraced_cons.mp h
    rw [List.cons_append, read, if_neg hclose, if_neg hopen, ih hcs]
    simp

theorem read_hole (p : Placeholder) (seen rest : List Char) :
    read none seen (p.written.toList ++ rest) =
      (fun parts => flush seen ++ .hole p :: parts) <$> read none [] rest := by
  have hmap : ∀ x : Except TemplateError (List TemplatePart),
      (flush seen ++ ·) <$> (.hole p :: ·) <$> x =
        (fun parts => flush seen ++ .hole p :: parts) <$> x := by
    intro x
    cases x <;> rfl
  rw [← hmap]
  cases p <;> rfl

/-- What is written from parts can be read, and the parts that are found stand for what those do. -/
theorem read_complete (value : Placeholder → String) {parts : List TemplatePart}
    (h : ∀ s, .text s ∈ parts → Unbraced s.toList) (seen : List Char) :
    ∃ found, read none seen (parts.flatMap fun part => part.written.toList) = .ok found ∧
      found.flatMap (fun part => (part.filled value).toList) =
        seen.reverse ++ parts.flatMap fun part => (part.filled value).toList := by
  have hflush := flatMap_flush (TemplatePart.filled value) fun _ => rfl
  induction parts generalizing seen with
  | nil => exact ⟨flush seen, rfl, by simp [hflush]⟩
  | cons part parts ih =>
    have hrest : ∀ s, .text s ∈ parts → Unbraced s.toList :=
      fun s hs => h s (List.mem_cons_of_mem part hs)
    rw [List.flatMap_cons]
    cases part with
    | text s =>
      obtain ⟨found, hfound, hfilled⟩ := ih hrest (s.toList.reverse ++ seen)
      refine ⟨found, ?_, ?_⟩
      · exact (read_text (h s (by simp)) seen _).trans hfound
      · simpa [TemplatePart.filled] using hfilled
    | hole p =>
      obtain ⟨found, hfound, hfilled⟩ := ih hrest []
      refine ⟨flush seen ++ .hole p :: found, ?_, ?_⟩
      · exact (read_hole p seen _).trans (map_ok_iff.mpr ⟨found, hfound, rfl⟩)
      · simp [hflush, hfilled]

theorem toList_join_map (f : TemplatePart → String) (parts : List TemplatePart) :
    (String.join (parts.map f)).toList = parts.flatMap fun part => (f part).toList := by
  rw [String.toList_join, List.flatMap_map]

theorem fill_eq (t : PathTemplate) (subject : ProjectPath) :
    t.fill subject = String.join (t.parts.map (TemplatePart.filled (valueOf subject))) := by
  unfold fill
  congr 2

theorem parse_ok_iff {text : String} {t : PathTemplate} :
    parse text = .ok t ↔
      t.text = text ∧ t.parts ≠ [] ∧ read none [] text.toList = .ok t.parts := by
  simp only [parse, bind_ok_iff, guard_ok_iff, List.isEmpty_iff]
  constructor
  · rintro ⟨parts, hparts, hne, h⟩
    obtain rfl := Except.ok.inj h
    exact ⟨rfl, hne, hparts⟩
  · rintro ⟨rfl, hne, hparts⟩
    exact ⟨t.parts, hparts, hne, rfl⟩

theorem spells_of_parse {text : String} {t : PathTemplate} (h : parse text = .ok t) :
    Spells t.parts text := by
  obtain ⟨-, -, hread⟩ := parse_ok_iff.mp h
  obtain ⟨hplain, hchars⟩ := read_sound (by simp [Unbraced]) hread
  refine ⟨hplain, String.toList_inj.mp ?_⟩
  rw [toList_join_map, hchars]
  rfl

/-- What is written from parts is a template, unless it is empty, and is filled in as they are. -/
theorem exists_parse_of_spells {text : String} {parts : List TemplatePart} (h : Spells parts text)
    (hne : text ≠ "") (subject : ProjectPath) :
    ∃ t, parse text = .ok t ∧
      t.fill subject = String.join (parts.map (TemplatePart.filled (valueOf subject))) := by
  obtain ⟨hplain, rfl⟩ := h
  obtain ⟨found, hfound, hfilled⟩ := read_complete (valueOf subject) hplain []
  rw [← toList_join_map] at hfound
  have hfound_ne : found ≠ [] := by
    rintro rfl
    have hchars := (read_sound (by simp [Unbraced]) hfound).2
    exact hne (String.toList_eq_nil_iff.mp hchars.symm)
  refine ⟨⟨_, found⟩, parse_ok_iff.mpr ⟨rfl, hfound_ne, hfound⟩, String.toList_inj.mp ?_⟩
  rw [fill_eq, toList_join_map, toList_join_map, hfilled]
  rfl

end Reading

section Expanding

open ProjectPath

/-- What the placeholders stand for, told by the names of the subject. A name is cut at its first
dot; one without a dot is all stem. -/
structure Describes (value : Placeholder → String) (subject : ProjectPath) : Prop where
  names : ∃ above, subject.segments = above ++ [value .name] ∧ value .dir = "/".intercalate above
  stem_no_dot : '.' ∉ (value .stem).toList
  cut : '.' ∈ (value .name).toList ∧ value .name = value .stem ++ "." ++ value .ext ∨
    '.' ∉ (value .name).toList ∧ value .stem = value .name ∧ value .ext = ""

theorem no_dot_stem (name : String) : '.' ∉ (stem name).toList := by
  rw [stem, String.toList_ofList]
  intro hdot
  simpa using List.mem_takeWhile_imp hdot

theorem stem_ext_of_dot {name : String} (h : '.' ∈ name.toList) :
    name = stem name ++ "." ++ ext name := by
  obtain ⟨before, after, hname, hbefore⟩ := List.eq_append_cons_of_mem h
  have hpass : ∀ c ∈ before, decide (c ≠ '.') = true := by
    intro c hc
    simpa using ne_of_mem_of_not_mem hc hbefore
  have hstem : (stem name).toList = before := by
    rw [stem, String.toList_ofList, hname, List.takeWhile_append_of_pos hpass]
    simp
  have hext : (ext name).toList = after := by
    rw [ext, String.toList_ofList, hname, List.dropWhile_append_of_pos hpass]
    simp
  refine String.toList_inj.mp ?_
  simp [hstem, hext, hname]

theorem stem_ext_of_no_dot {name : String} (h : '.' ∉ name.toList) :
    stem name = name ∧ ext name = "" := by
  have hpass : ∀ c ∈ name.toList, decide (c ≠ '.') = true := by
    intro c hc
    simpa using ne_of_mem_of_not_mem hc h
  constructor
  · rw [stem, List.takeWhile_eq_self_iff.mpr hpass, String.ofList_toList]
  · rw [ext, List.dropWhile_eq_nil_iff.mpr hpass]
    rfl

variable {above : List String} {name : String} (h : ∀ n ∈ above ++ [name], IsName n)
include h

theorem describes_valueOf :
    Describes (valueOf (ofSegments (above ++ [name]))) (ofSegments (above ++ [name])) := by
  have hname : IsName name := h name (by simp)
  have hfile := fileName_ofSegments above hname
  refine ⟨⟨above, ?_, ?_⟩, no_dot_stem _, ?_⟩
  · rw [segments_ofSegments h, valueOf, hfile]
  · rw [valueOf, parent_ofSegments above hname]
    rfl
  · simp only [valueOf, hfile]
    by_cases hdot : '.' ∈ name.toList
    · exact .inl ⟨hdot, stem_ext_of_dot hdot⟩
    · exact .inr ⟨hdot, stem_ext_of_no_dot hdot⟩

theorem isRoot_ofSegments : (ofSegments (above ++ [name])).isRoot = false := by
  rw [← Bool.not_eq_true, isRoot_iff, ofSegments_eq_root_iff h]
  simp

theorem expand?_of_fill {t : PathTemplate}
    (hfill : t.fill (ofSegments (above ++ [name])) = (ofSegments above).text ++ "/" ++ name) :
    t.expand? (ofSegments (above ++ [name])) = some (ofSegments (above ++ [name])) := by
  rw [expand?, hfill, normalize?_parent_name h]
  simp [Option.filter, isRoot_ofSegments h]

theorem fill_dir_name (text : String) :
    fill ⟨text, [.hole .dir, .text "/", .hole .name]⟩ (ofSegments (above ++ [name])) =
      (ofSegments above).text ++ "/" ++ name := by
  have hname : IsName name := h name (by simp)
  simp [fill_eq, TemplatePart.filled, valueOf, parent_ofSegments above hname,
    fileName_ofSegments above hname, String.append_assoc]

theorem fill_dir_stem_ext (text : String) (hdot : '.' ∈ name.toList) :
    fill ⟨text, [.hole .dir, .text "/", .hole .stem, .text ".", .hole .ext]⟩
      (ofSegments (above ++ [name])) = (ofSegments above).text ++ "/" ++ name := by
  have hname : IsName name := h name (by simp)
  conv_rhs => rw [stem_ext_of_dot hdot]
  simp [fill_eq, TemplatePart.filled, valueOf, parent_ofSegments above hname,
    fileName_ofSegments above hname, String.append_assoc]

end Expanding

/-- A text is a template where it is written from pieces without braces and from placeholders, and
not empty; the parts that are found spell it out. A template expands to the path below the root that
its text leads to once each placeholder is replaced. So the directory of any path and its name
expand to the path itself, as do its directory, its stem and the rest of its name. -/
theorem parse_exact (text : String) :
    ((∃ t, parse text = .ok t) ↔ text ≠ "" ∧ ∃ parts, Spells parts text) ∧
    (∀ t, parse text = .ok t → t.text = text ∧ Spells t.parts text) ∧
    (∀ subject : ProjectPath, subject.Canonical → subject ≠ .root →
      Describes (valueOf subject) subject ∧
      (∀ t, parse text = .ok t → ∀ parts, Spells parts text →
        t.expand? subject =
          (ProjectPath.normalize?
            (String.join (parts.map (TemplatePart.filled (valueOf subject))))).filter (!·.isRoot)) ∧
      (∃ t, parse "\x7bdir\x7d/\x7bname\x7d" = .ok t ∧ t.expand? subject = some subject) ∧
      ('.' ∈ subject.fileName.toList →
        ∃ t, parse "\x7bdir\x7d/\x7bstem\x7d.\x7bext\x7d" = .ok t ∧
          t.expand? subject = some subject)) := by
  refine ⟨⟨?_, ?_⟩, fun t ht => ⟨(parse_ok_iff.mp ht).1, spells_of_parse ht⟩,
    fun subject hsubject hroot => ?_⟩
  · rintro ⟨t, ht⟩
    refine ⟨?_, t.parts, spells_of_parse ht⟩
    rintro rfl
    cases ht
  · rintro ⟨hne, parts, hparts⟩
    obtain ⟨t, ht, -⟩ := exists_parse_of_spells hparts hne .root
    exact ⟨t, ht⟩
  obtain ⟨above, name, hnames, rfl⟩ := hsubject.exists_names hroot
  refine ⟨describes_valueOf hnames, fun t ht parts hparts => ?_,
    ⟨_, rfl, expand?_of_fill hnames (fill_dir_name hnames _)⟩, fun hdot => ⟨_, rfl, ?_⟩⟩
  · have hne : text ≠ "" := by
      rintro rfl
      cases ht
    obtain ⟨t', ht', hfill⟩ := exists_parse_of_spells hparts hne (.ofSegments (above ++ [name]))
    obtain rfl := Except.ok.inj (ht.symm.trans ht')
    rw [expand?, hfill]
  · rw [ProjectPath.fileName_ofSegments above (hnames name (by simp))] at hdot
    exact expand?_of_fill hnames (fill_dir_stem_ext hnames _ hdot)

/-- The test of a file, with its middle written in two pieces. -/
def testParts : List TemplatePart :=
  [.hole .dir, .text "/", .hole .stem, .text ".te", .text "st.", .hole .ext]

theorem parse_exact_test :
    Spells testParts "\x7bdir\x7d/\x7bstem\x7d.test.\x7bext\x7d" ∧
    ∃ t, parse "\x7bdir\x7d/\x7bstem\x7d.test.\x7bext\x7d" = .ok t ∧
      t.expand? ⟨"src/Card.view.tsx"⟩ = some ⟨"src/Card.test.view.tsx"⟩ := by
  have hspells : Spells testParts "\x7bdir\x7d/\x7bstem\x7d.test.\x7bext\x7d" := by
    refine ⟨fun s hs => ?_, by decide⟩
    have htexts : s = "/" ∨ s = ".te" ∨ s = "st." := by simpa [testParts] using hs
    rcases htexts with rfl | rfl | rfl <;> simp [Unbraced]
  have hsubject : (⟨"src/Card.view.tsx"⟩ : ProjectPath).Canonical :=
    ProjectPath.canonical_of_normalize?
      (by decide : ProjectPath.normalize? "src/Card.view.tsx" = some ⟨"src/Card.view.tsx"⟩)
  obtain ⟨t, ht⟩ := (parse_exact _).1.mpr ⟨by decide, testParts, hspells⟩
  have hexpand := ((parse_exact _).2.2 _ hsubject (by decide)).2.1 t ht testParts hspells
  exact ⟨hspells, t, ht, hexpand.trans (by decide)⟩

end PathTemplate
end TreeLint
