import TreeLint.Walk
import TreeLint.Proofs.IgnoreSet
import TreeLint.Proofs.Tree

/-!
What a walk over a tree finds. A walk goes from directory to directory and never enters a pruned
one, yet it finds exactly what the pattern accepts and is not ignored, since all that lies below a
pruned directory is ignored.
-/
namespace TreeLint

open ProjectPath PatternSegment

namespace Tree

/-- A walk can go down `names` from the directory with the names `base`. -/
structure Leads (t : Tree) (ignore : IgnoreSet) (base names : List String) : Prop where
  isName : ∀ n ∈ base ++ names, IsName n
  enters : names ≠ [] → t.isDir (ofSegments (base ++ names)) = true ∧
    ignore.prunes (ofSegments (base ++ names)) = false

theorem Leads.stay {t : Tree} {ignore : IgnoreSet} {base : List String}
    (h : ∀ n ∈ base, IsName n) : t.Leads ignore base [] :=
  ⟨by simpa using h, fun hne => absurd rfl hne⟩

theorem leads_one_iff (t : Tree) (ignore : IgnoreSet) {base : List String}
    (h : ∀ n ∈ base, IsName n) (n : String) :
    t.Leads ignore base [n] ↔ IsName n ∧ t.isDir (ofSegments (base ++ [n])) = true ∧
      ignore.prunes (ofSegments (base ++ [n])) = false := by
  constructor
  · intro hleads
    exact ⟨hleads.isName n (by simp), hleads.enters (by simp)⟩
  · rintro ⟨hn, henters⟩
    exact ⟨isName_snoc h hn, fun _ => henters⟩

/-- A way down can be cut anywhere: what lies above an entered directory can be entered too. -/
theorem WellFormed.leads_append_iff {t : Tree} (ht : t.WellFormed) (ignore : IgnoreSet)
    (base first second : List String) :
    t.Leads ignore base (first ++ second) ↔
      t.Leads ignore base first ∧ t.Leads ignore (base ++ first) second := by
  constructor
  · intro h
    have hnames := h.isName
    rw [← List.append_assoc] at hnames
    have hfirst : ∀ n ∈ base ++ first, IsName n := fun n hn => hnames n (List.mem_append_left _ hn)
    refine ⟨⟨hfirst, fun hne => ?_⟩, ⟨hnames, fun hne => ?_⟩⟩
    · obtain ⟨hdir, hopen⟩ := h.enters (by simp [hne])
      rw [← List.append_assoc] at hdir hopen
      refine ⟨ht.isDir_above hnames (List.prefix_append _ _) hdir, ?_⟩
      rw [← Bool.not_eq_true] at hopen ⊢
      intro hprunes
      refine hopen (IgnoreSet.prunes_below (canonical_ofSegments hfirst)
        (canonical_ofSegments hnames) ?_ hprunes)
      rw [segments_ofSegments hfirst, segments_ofSegments hnames]
      exact List.prefix_append _ _
    · rw [List.append_assoc]
      exact h.enters (by simp [hne])
  · rintro ⟨hfirst, hsecond⟩
    refine ⟨by simpa using hsecond.isName, fun hne => ?_⟩
    by_cases hnil : second = []
    · subst hnil
      rw [List.append_nil] at hne ⊢
      exact hfirst.enters hne
    · rw [← List.append_assoc]
      exact hsecond.enters hnil

/-- The directories that `segments` select from `dirs`. -/
def Selected (t : Tree) (ignore : IgnoreSet) (dirs : List ProjectPath)
    (segments : List PatternSegment) (x : ProjectPath) : Prop :=
  ∃ base names, ofSegments base ∈ dirs ∧ t.Leads ignore base names ∧
    matchPath segments names = true ∧ x = ofSegments (base ++ names)

theorem Selected.canonical {t : Tree} {ignore : IgnoreSet} {dirs : List ProjectPath}
    {segments : List PatternSegment} {x : ProjectPath} (h : t.Selected ignore dirs segments x) :
    x.Canonical := by
  obtain ⟨base, names, -, hleads, -, rfl⟩ := h
  exact canonical_ofSegments hleads.isName

theorem selected_nil_iff {t : Tree} {ignore : IgnoreSet} {dirs : List ProjectPath}
    (hdirs : ∀ d ∈ dirs, d.Canonical) (x : ProjectPath) :
    t.Selected ignore dirs [] x ↔ x ∈ dirs := by
  constructor
  · rintro ⟨base, names, hbase, -, hmatch, rfl⟩
    rw [(matchPath_nil_iff names).mp hmatch, List.append_nil]
    exact hbase
  · intro hx
    obtain ⟨base, hbase, rfl⟩ := hdirs x hx
    exact ⟨base, [], hx, Leads.stay hbase, rfl, by simp⟩

/-- What several segments select is what the later ones select from what the first one does. -/
theorem WellFormed.selected_cons_iff {t : Tree} (ht : t.WellFormed) {ignore : IgnoreSet}
    {dirs next : List ProjectPath} {segment : PatternSegment}
    (hnext : ∀ x, x ∈ next ↔ t.Selected ignore dirs [segment] x) (rest : List PatternSegment)
    (x : ProjectPath) :
    t.Selected ignore next rest x ↔ t.Selected ignore dirs (segment :: rest) x := by
  constructor
  · rintro ⟨middle, after, hmiddle, hafter, hrest, rfl⟩
    obtain ⟨base, before, hbase, hbefore, hone, heq⟩ := (hnext _).mp hmiddle
    obtain rfl := ofSegments_inj (fun n hn => hafter.isName n (by simp [hn])) hbefore.isName heq
    refine ⟨base, before ++ after, hbase, ?_, ?_, by simp⟩
    · exact (ht.leads_append_iff ignore base before after).mpr ⟨hbefore, hafter⟩
    · exact (matchPath_cons_iff segment rest _).mpr ⟨before, after, rfl, hone, hrest⟩
  · rintro ⟨base, names, hbase, hleads, hmatch, rfl⟩
    obtain ⟨before, after, rfl, hone, hrest⟩ := (matchPath_cons_iff segment rest names).mp hmatch
    obtain ⟨hbefore, hafter⟩ := (ht.leads_append_iff ignore base before after).mp hleads
    refine ⟨base ++ before, after, ?_, hafter, hrest, by simp⟩
    exact (hnext _).mpr ⟨base, before, hbase, hbefore, hone, rfl⟩

end Tree

namespace FileView

variable {t : Tree} {ignore : IgnoreSet}

theorem subdirs_eq (view : FileView) (dir : ProjectPath) :
    view.subdirs dir = view.matchingDirs .recursive dir := by
  simp [subdirs, matchingDirs, matchesName]

theorem files_eq (view : FileView) (dir : ProjectPath) :
    view.files dir = view.matchingFiles .recursive dir := by
  simp [files, matchingFiles, matchesName]

theorem mem_matchingDirs (ht : t.WellFormed) {base : List String} (h : ∀ n ∈ base, IsName n)
    (segment : PatternSegment) (x : ProjectPath) :
    x ∈ t.view.matchingDirs segment (ofSegments base) ↔
      ∃ n, IsName n ∧ segment.matchesName n = true ∧ t.isDir (ofSegments (base ++ [n])) = true ∧
        x = ofSegments (base ++ [n]) := by
  simp only [matchingDirs, List.mem_map, List.mem_filter, Bool.and_eq_true,
    ht.mem_entries_ofSegments h, join_ofSegments h]
  constructor
  · rintro ⟨e, ⟨⟨hname, -, hkind⟩, hdir, hfits⟩, rfl⟩
    exact ⟨e.name, hname, hfits, hkind ▸ hdir, rfl⟩
  · rintro ⟨n, hname, hfits, hdir, rfl⟩
    exact ⟨⟨n, true⟩, ⟨⟨hname, Or.inr rfl, hdir.symm⟩, rfl, hfits⟩, rfl⟩

theorem mem_matchingFiles (ht : t.WellFormed) {base : List String} (h : ∀ n ∈ base, IsName n)
    (segment : PatternSegment) (x : ProjectPath) :
    x ∈ t.view.matchingFiles segment (ofSegments base) ↔
      ∃ n, IsName n ∧ segment.matchesName n = true ∧ t.isFile x = true ∧ t.isDir x = false ∧
        x = ofSegments (base ++ [n]) := by
  simp only [matchingFiles, List.mem_map, List.mem_filter, Bool.and_eq_true, Bool.not_eq_true',
    ht.mem_entries_ofSegments h, join_ofSegments h]
  constructor
  · rintro ⟨e, ⟨⟨hname, hchild, hkind⟩, hdir, hfits⟩, rfl⟩
    rw [hdir] at hchild hkind
    exact ⟨e.name, hname, hfits, by simpa using hchild, hkind.symm, rfl⟩
  · rintro ⟨n, hname, hfits, hfile, hdir, rfl⟩
    exact ⟨⟨n, false⟩, ⟨⟨hname, Or.inl hfile, hdir.symm⟩, rfl, hfits⟩, rfl⟩

/-- An unpruned directory listed in a directory is one name further down. -/
theorem mem_subdirs_unpruned (ht : t.WellFormed) {base : List String}
    (h : ∀ n ∈ base, IsName n) (x : ProjectPath) :
    x ∈ t.view.subdirs (ofSegments base) ∧ ignore.prunes x = false ↔
      ∃ n, t.Leads ignore base [n] ∧ x = ofSegments (base ++ [n]) := by
  rw [subdirs_eq, mem_matchingDirs ht h]
  constructor
  · rintro ⟨⟨n, hname, -, hdir, rfl⟩, hopen⟩
    exact ⟨n, (Tree.leads_one_iff t ignore h n).mpr ⟨hname, hdir, hopen⟩, rfl⟩
  · rintro ⟨n, hleads, rfl⟩
    obtain ⟨hname, hdir, hopen⟩ := (Tree.leads_one_iff t ignore h n).mp hleads
    exact ⟨⟨n, hname, rfl, hdir, rfl⟩, hopen⟩

theorem subset_reach (view : FileView) (n : ℕ) (found front : List ProjectPath) :
    found ⊆ view.reach ignore n found front := by
  induction n generalizing found front with
  | zero => exact List.Subset.refl found
  | succ n ih => exact fun x hx => ih _ _ (List.mem_append_left _ hx)

theorem mem_fresh (view : FileView) (found front : List ProjectPath) (x : ProjectPath) :
    x ∈ (front.flatMap view.subdirs).filter (fun d => !found.contains d && !ignore.prunes d) ↔
      (∃ d ∈ front, x ∈ view.subdirs d ∧ ignore.prunes x = false) ∧ x ∉ found := by
  simp only [List.mem_filter, List.mem_flatMap, Bool.and_eq_true, Bool.not_eq_true',
    List.contains_eq_mem, decide_eq_false_iff_not]
  constructor
  · rintro ⟨⟨d, hd, hx⟩, hnew, hopen⟩
    exact ⟨⟨d, hd, hx, hopen⟩, hnew⟩
  · rintro ⟨⟨d, hd, hx, hopen⟩, hnew⟩
    exact ⟨⟨d, hd, hx⟩, hnew, hopen⟩

/-- Nothing is reached but by going down from what was there. -/
theorem reach_sound (ht : t.WellFormed) (n : ℕ) {found front : List ProjectPath}
    (hfound : ∀ d ∈ found, d.Canonical) (hfront : front ⊆ found) {x : ProjectPath}
    (hx : x ∈ t.view.reach ignore n found front) :
    ∃ base names, ofSegments base ∈ found ∧ t.Leads ignore base names ∧
      x = ofSegments (base ++ names) := by
  induction n generalizing found front x with
  | zero =>
    obtain ⟨base, hbase, rfl⟩ := hfound x hx
    exact ⟨base, [], hx, Tree.Leads.stay hbase, by simp⟩
  | succ n ih =>
    set fresh := (front.flatMap t.view.subdirs).filter
      (fun d => !found.contains d && !ignore.prunes d) with hfresh
    -- a fresh directory is one step below some member of the front
    have hstep : ∀ d ∈ fresh, ∃ base m, ofSegments base ∈ found ∧ t.Leads ignore base [m] ∧
        d = ofSegments (base ++ [m]) := by
      intro d hd
      obtain ⟨⟨above, habove, hd⟩, -⟩ := (mem_fresh t.view found front d).mp hd
      obtain ⟨base, hbase, rfl⟩ := hfound above (hfront habove)
      obtain ⟨m, hleads, rfl⟩ := (mem_subdirs_unpruned ht hbase d).mp hd
      exact ⟨base, m, hfront habove, hleads, rfl⟩
    have hfound' : ∀ d ∈ found ++ fresh, d.Canonical := by
      intro d hd
      rcases List.mem_append.mp hd with hd | hd
      · exact hfound d hd
      · obtain ⟨base, m, -, hleads, rfl⟩ := hstep d hd
        exact canonical_ofSegments hleads.isName
    obtain ⟨base, names, hbase, hleads, rfl⟩ :=
      ih hfound' (List.subset_append_right found fresh) hx
    rcases List.mem_append.mp hbase with hbase | hbase
    · exact ⟨base, names, hbase, hleads, rfl⟩
    · obtain ⟨above, m, habove, hm, heq⟩ := hstep _ hbase
      obtain rfl := ofSegments_inj (fun n hn => hleads.isName n (by simp [hn])) hm.isName heq
      exact ⟨above, [m] ++ names, habove,
        (ht.leads_append_iff ignore above [m] names).mpr ⟨hm, hleads⟩, by simp⟩

/-- Whatever lies up to `n` names down is reached in `n` rounds, when all but the front has been
looked into. -/
theorem reach_complete (ht : t.WellFormed) (n : ℕ) {found front : List ProjectPath}
    (hclosed : ∀ d ∈ found, d ∉ front → ∀ x ∈ t.view.subdirs d, ignore.prunes x = false → x ∈ found)
    {base names : List String} (hbase : ofSegments base ∈ found)
    (hleads : t.Leads ignore base names) (hlen : names.length ≤ n) :
    ofSegments (base ++ names) ∈ t.view.reach ignore n found front := by
  induction n generalizing found front base names with
  | zero =>
    obtain rfl : names = [] := List.length_eq_zero_iff.mp (Nat.le_zero.mp hlen)
    simpa [reach] using hbase
  | succ n ih =>
    cases names with
    | nil =>
      rw [List.append_nil]
      exact subset_reach t.view (n + 1) found front hbase
    | cons m names =>
      set fresh := (front.flatMap t.view.subdirs).filter
        (fun d => !found.contains d && !ignore.prunes d) with hfresh
      -- after this round all that was found has been looked into
      have hnext : ∀ d ∈ found, ∀ x ∈ t.view.subdirs d, ignore.prunes x = false →
          x ∈ found ++ fresh := by
        intro d hd x hx hopen
        rw [List.mem_append, mem_fresh]
        by_cases hfound : x ∈ found
        · exact Or.inl hfound
        · by_cases hfront : d ∈ front
          · exact Or.inr ⟨⟨d, hfront, hx, hopen⟩, hfound⟩
          · exact absurd (hclosed d hd hfront x hx hopen) hfound
      obtain ⟨hm, hrest⟩ := (ht.leads_append_iff ignore base [m] names).mp hleads
      have hbase' : ∀ n ∈ base, IsName n := fun n hn => hleads.isName n (by simp [hn])
      obtain ⟨hx, hopen⟩ := (mem_subdirs_unpruned ht hbase' _).mpr ⟨m, hm, rfl⟩
      have hclosed' : ∀ d ∈ found ++ fresh, d ∉ fresh → ∀ x ∈ t.view.subdirs d,
          ignore.prunes x = false → x ∈ found ++ fresh :=
        fun d hd hnot => hnext d ((List.mem_append.mp hd).resolve_right hnot)
      have hgoal := ih hclosed' (hnext _ hbase _ hx hopen) hrest (by simpa using hlen)
      change ofSegments (base ++ m :: names) ∈ t.view.reach ignore n (found ++ fresh) fresh
      simpa using hgoal

theorem mem_dirsFrom (ht : t.WellFormed) {dirs : List ProjectPath}
    (hdirs : ∀ d ∈ dirs, d.Canonical) (x : ProjectPath) :
    x ∈ t.view.dirsFrom ignore dirs ↔ t.Selected ignore dirs [.recursive] x := by
  constructor
  · intro hx
    obtain ⟨base, names, hbase, hleads, rfl⟩ := reach_sound ht _ hdirs (List.Subset.refl _) hx
    exact ⟨base, names, hbase, hleads, matchPath_recursive names, rfl⟩
  · rintro ⟨base, names, hbase, hleads, -, rfl⟩
    refine reach_complete ht _ (fun d hd hnot => absurd hd hnot) hbase hleads ?_
    by_cases hnil : names = []
    · simp [hnil]
    · have hdepth := ht.length_le_depth hleads.isName (hleads.enters hnil).1
      rw [List.length_append] at hdepth
      exact (Nat.le_add_left _ _).trans hdepth

theorem mem_step (ht : t.WellFormed) {dirs : List ProjectPath}
    (hdirs : ∀ d ∈ dirs, d.Canonical) (segment : PatternSegment) (x : ProjectPath) :
    x ∈ t.view.step ignore dirs segment ↔ t.Selected ignore dirs [segment] x := by
  by_cases hrec : segment = .recursive
  · subst hrec
    exact mem_dirsFrom ht hdirs x
  have hstep : t.view.step ignore dirs segment =
      (dirs.flatMap (t.view.matchingDirs segment)).filter (!ignore.prunes ·) := by
    cases segment with
    | recursive => exact absurd rfl hrec
    | literal name => rfl
    | wildcard glob => rfl
  simp only [hstep, List.mem_filter, List.mem_flatMap, Bool.not_eq_true']
  constructor
  · rintro ⟨⟨d, hd, hx⟩, hopen⟩
    obtain ⟨base, hbase, rfl⟩ := hdirs d hd
    obtain ⟨n, hname, hfits, hdir, rfl⟩ := (mem_matchingDirs ht hbase segment x).mp hx
    exact ⟨base, [n], hd, (Tree.leads_one_iff t ignore hbase n).mpr ⟨hname, hdir, hopen⟩,
      (matchPath_one_iff hrec [n]).mpr ⟨n, rfl, hfits⟩, rfl⟩
  · rintro ⟨base, names, hd, hleads, hmatch, rfl⟩
    obtain ⟨n, rfl, hfits⟩ := (matchPath_one_iff hrec names).mp hmatch
    have hbase : ∀ m ∈ base, IsName m := fun m hm => hleads.isName m (by simp [hm])
    obtain ⟨hname, hdir, hopen⟩ := (Tree.leads_one_iff t ignore hbase n).mp hleads
    exact ⟨⟨_, hd, (mem_matchingDirs ht hbase segment _).mpr ⟨n, hname, hfits, hdir, rfl⟩⟩, hopen⟩

/-- The directories that a walk is in after some segments are those that the segments select. -/
theorem mem_foldl_step (ht : t.WellFormed) (segments : List PatternSegment)
    {dirs : List ProjectPath} (hdirs : ∀ d ∈ dirs, d.Canonical) (x : ProjectPath) :
    x ∈ segments.foldl (t.view.step ignore) dirs ↔ t.Selected ignore dirs segments x := by
  induction segments generalizing dirs with
  | nil => exact (Tree.selected_nil_iff hdirs x).symm
  | cons segment rest ih =>
    have hnext : ∀ y, y ∈ t.view.step ignore dirs segment ↔
        t.Selected ignore dirs [segment] y := mem_step ht hdirs segment
    rw [List.foldl_cons, ih fun d hd => ((hnext d).mp hd).canonical]
    exact ht.selected_cons_iff hnext rest x

theorem walkFiles_cons (view : FileView) (ignore : IgnoreSet) (segment : PatternSegment)
    {rest : List PatternSegment} (hne : rest ≠ []) (dirs : List ProjectPath) :
    view.walkFiles ignore (segment :: rest) dirs =
      view.walkFiles ignore rest (view.step ignore dirs segment) := by
  cases rest with
  | nil => exact absurd rfl hne
  | cons next rest => cases segment <;> rfl

theorem walkFiles_recursive (view : FileView) (ignore : IgnoreSet)
    (segments : List PatternSegment) (dirs : List ProjectPath) :
    view.walkFiles ignore (segments ++ [.recursive]) dirs =
      ((segments ++ [PatternSegment.recursive]).foldl (view.step ignore) dirs).flatMap
        view.files := by
  induction segments generalizing dirs with
  | nil => rfl
  | cons segment rest ih =>
    rw [List.cons_append, walkFiles_cons _ _ _ (by simp), ih, List.foldl_cons]

theorem walkFiles_concat (view : FileView) (ignore : IgnoreSet) {last : PatternSegment}
    (hlast : last ≠ .recursive) (segments : List PatternSegment) (dirs : List ProjectPath) :
    view.walkFiles ignore (segments ++ [last]) dirs =
      (segments.foldl (view.step ignore) dirs).flatMap (view.matchingFiles last) := by
  induction segments generalizing dirs with
  | nil =>
    cases last with
    | recursive => exact absurd rfl hlast
    | literal name => rfl
    | wildcard glob => rfl
  | cons segment rest ih =>
    rw [List.cons_append, walkFiles_cons _ _ _ (by simp), ih, List.foldl_cons]

theorem mem_foldl_step_root (ht : t.WellFormed) (segments : List PatternSegment)
    (x : ProjectPath) :
    x ∈ segments.foldl (t.view.step ignore) [root] ↔
      ∃ names, t.Leads ignore [] names ∧ matchPath segments names = true ∧
        x = ofSegments names := by
  rw [mem_foldl_step ht segments (by simp [canonical_root])]
  constructor
  · rintro ⟨base, names, hbase, hleads, hmatch, rfl⟩
    have hnames : ∀ n ∈ base, IsName n := fun n hn => hleads.isName n (by simp [hn])
    obtain rfl := (ofSegments_eq_root_iff hnames).mp (List.mem_singleton.mp hbase)
    exact ⟨names, hleads, hmatch, rfl⟩
  · rintro ⟨names, hleads, hmatch, rfl⟩
    exact ⟨[], names, by simp, hleads, hmatch, rfl⟩

/-- The files that a walk finds: with a last `**` the directories are matched, else the files. -/
theorem mem_walkFiles (ht : t.WellFormed) (segments : List PatternSegment) (f : ProjectPath) :
    f ∈ t.view.walkFiles ignore segments [root] ↔
      ∃ names n, t.Leads ignore [] names ∧ IsName n ∧ t.isFile f = true ∧ t.isDir f = false ∧
        f = ofSegments (names ++ [n]) ∧
        matchPath segments
          (if segments.getLast? = some .recursive then names else names ++ [n]) = true := by
  rcases List.eq_nil_or_concat' segments with rfl | ⟨before, last, rfl⟩
  · simp [walkFiles, matchPath_nil_iff]
  simp only [List.getLast?_append, List.getLast?_singleton, Option.some_or, Option.some.injEq]
  by_cases hlast : last = .recursive
  · subst hlast
    simp only [walkFiles_recursive, List.mem_flatMap, mem_foldl_step_root ht, if_true]
    constructor
    · rintro ⟨d, ⟨names, hleads, hmatch, rfl⟩, hf⟩
      have hnames : ∀ n ∈ names, IsName n := hleads.isName
      rw [files_eq, mem_matchingFiles ht hnames] at hf
      obtain ⟨n, hname, -, hfile, hdir, rfl⟩ := hf
      exact ⟨names, n, hleads, hname, hfile, hdir, rfl, hmatch⟩
    · rintro ⟨names, n, hleads, hname, hfile, hdir, rfl, hmatch⟩
      have hnames : ∀ n ∈ names, IsName n := hleads.isName
      refine ⟨ofSegments names, ⟨names, hleads, hmatch, rfl⟩, ?_⟩
      rw [files_eq, mem_matchingFiles ht hnames]
      exact ⟨n, hname, rfl, hfile, hdir, rfl⟩
  · simp only [walkFiles_concat _ _ hlast, List.mem_flatMap, mem_foldl_step_root ht, if_neg hlast]
    constructor
    · rintro ⟨d, ⟨names, hleads, hmatch, rfl⟩, hf⟩
      obtain ⟨n, hname, hfits, hfile, hdir, rfl⟩ :=
        (mem_matchingFiles ht hleads.isName last f).mp hf
      refine ⟨names, n, hleads, hname, hfile, hdir, rfl, ?_⟩
      exact (matchPath_append_iff before [last] _).mpr
        ⟨names, [n], rfl, hmatch, (matchPath_one_iff hlast [n]).mpr ⟨n, rfl, hfits⟩⟩
    · rintro ⟨names, n, hleads, hname, hfile, hdir, rfl, hmatch⟩
      obtain ⟨taken, rest, heq, htaken, hrest⟩ := (matchPath_append_iff before [last] _).mp hmatch
      obtain ⟨m, rfl, hfits⟩ := (matchPath_one_iff hlast rest).mp hrest
      obtain ⟨rfl, hmn⟩ := List.append_inj' heq rfl
      obtain rfl : n = m := by simpa using hmn
      exact ⟨ofSegments names, ⟨names, hleads, htaken, rfl⟩,
        (mem_matchingFiles ht hleads.isName last _).mpr ⟨n, hname, hfits, hfile, hdir, rfl⟩⟩

/-- No file that a pattern accepts is lost in a pruned directory, unless it is ignored. -/
theorem mem_matchFiles (ht : t.WellFormed) (p : Pattern) (f : ProjectPath) :
    f ∈ t.view.matchFiles p ignore ↔
      t.isFile f = true ∧ t.isDir f = false ∧ ignore.isIgnored f = false ∧
        p.isMatch (if p.endsRecursive then f.parent else f) = true := by
  simp only [matchFiles, List.mem_filter, Ascending.mem_ofList, mem_walkFiles ht,
    Bool.not_eq_true', Pattern.endsRecursive_iff, Pattern.isMatch_iff]
  constructor
  · rintro ⟨⟨names, n, hleads, hname, hfile, hdir, rfl, hmatch⟩, hkept⟩
    have hnames : ∀ m ∈ names, IsName m := hleads.isName
    refine ⟨hfile, hdir, hkept, ?_, ?_⟩
    · intro hnil
      rw [hnil] at hmatch
      simp [matchPath_nil_iff] at hmatch
    · split_ifs at hmatch ⊢
      · rwa [parent_ofSegments names hname, segments_ofSegments hnames]
      · rwa [segments_ofSegments (isName_snoc hnames hname)]
  · rintro ⟨hfile, hdir, hkept, -, hmatch⟩
    obtain ⟨whole, hwhole, rfl⟩ := ht.canonical_of_isFile hfile
    rcases List.eq_nil_or_concat' whole with rfl | ⟨names, n, rfl⟩
    · -- the root is a directory as soon as there is a file at it
      rw [ofSegments_nil] at hfile hdir
      have hroot : root ∈ t.dirs := (ht.mem_dirs root).mpr
        ⟨root, (t.isFile_iff root).mp hfile, by simp [ancestors, isRoot_iff]⟩
      rw [(t.isDir_iff root).mpr hroot] at hdir
      exact absurd hdir (by simp)
    have hname : IsName n := hwhole n (by simp)
    have hnames : ∀ m ∈ names, IsName m := fun m hm => hwhole m (by simp [hm])
    refine ⟨⟨names, n, ⟨hnames, fun hne => ?_⟩, hname, hfile, hdir, rfl, ?_⟩, hkept⟩
    · refine ⟨ht.isDir_of_isFile hwhole hfile, ?_⟩
      rw [← Bool.not_eq_true] at hkept ⊢
      intro hprunes
      refine hkept (IgnoreSet.isIgnored_of_prunes (IgnoreSet.prunes_below
        (canonical_ofSegments hnames) (canonical_ofSegments hwhole) ?_ hprunes))
      rw [segments_ofSegments hnames, segments_ofSegments hwhole]
      exact List.prefix_append _ _
    · split_ifs at hmatch ⊢
      · rwa [parent_ofSegments names hname, segments_ofSegments hnames] at hmatch
      · rwa [segments_ofSegments hwhole] at hmatch

theorem mem_matchDirs (ht : t.WellFormed) (p : Pattern) (d : ProjectPath) :
    d ∈ t.view.matchDirs p ignore ↔
      t.isDir d = true ∧ d ≠ root ∧ ignore.isIgnored d = false ∧ p.isMatch d = true := by
  simp only [matchDirs, walkDirs, List.mem_filter, Ascending.mem_ofList, mem_foldl_step_root ht,
    Bool.not_eq_true', ← Bool.not_eq_true, isRoot_iff, Pattern.isMatch_iff]
  constructor
  · rintro ⟨⟨⟨names, hleads, hmatch, rfl⟩, hroot⟩, hkept⟩
    have hne : names ≠ [] := by
      rintro rfl
      simp at hroot
    refine ⟨(hleads.enters hne).1, hroot, hkept, ?_, ?_⟩
    · intro hnil
      rw [hnil] at hmatch
      exact hne ((matchPath_nil_iff names).mp hmatch)
    · have hnames : ∀ n ∈ names, IsName n := hleads.isName
      rwa [segments_ofSegments hnames]
  · rintro ⟨hdir, hroot, hkept, -, hmatch⟩
    obtain ⟨names, hnames, rfl⟩ := ht.canonical_of_isDir hdir
    refine ⟨⟨⟨names, ⟨hnames, fun _ => ⟨hdir, ?_⟩⟩, ?_, rfl⟩, hroot⟩, hkept⟩
    · rw [← Bool.not_eq_true]
      exact fun hprunes => hkept (IgnoreSet.isIgnored_of_prunes hprunes)
    · rwa [segments_ofSegments hnames] at hmatch

theorem matchFiles_sorted (view : FileView) (p : Pattern) (ignore : IgnoreSet) :
    (view.matchFiles p ignore).Pairwise (· < ·) :=
  (Ascending.ofList_sorted _).filter _

theorem matchDirs_sorted (view : FileView) (p : Pattern) (ignore : IgnoreSet) :
    (view.matchDirs p ignore).Pairwise (· < ·) :=
  (Ascending.ofList_sorted _).filter _

end FileView
end TreeLint
