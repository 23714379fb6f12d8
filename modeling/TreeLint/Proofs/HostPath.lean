import TreeLint.HostPath
import TreeLint.Proofs.Path

/-!
Normal forms of host paths. A normal form reads back as the components it was written from, so two
normal forms that name the same path are the same text.
-/
namespace TreeLint.HostPath

/-- A component that can stand anywhere in a normal form. -/
def Component.Plain : Component → Prop
  | .root => False
  | .here => False
  | .up => True
  | .name s => s ≠ "" ∧ s ≠ "." ∧ s ≠ ".." ∧ '/' ∉ s.toList

/-- The components of a normal form: at most one root, in front. -/
def Normal (cs : List Component) : Prop :=
  ∃ body, (∀ c ∈ body, c.Plain) ∧ (cs = body ∨ cs = .root :: body)

namespace Component.Plain

variable {c : Component} (h : c.Plain)
include h

theorem no_slash : '/' ∉ c.text.toList := by
  cases c with
  | root => exact h.elim
  | here => exact h.elim
  | up => decide
  | name s => exact h.2.2.2

theorem ofPiece?_text : Component.ofPiece? c.text = some c := by
  cases c with
  | root => exact h.elim
  | here => exact h.elim
  | up => rfl
  | name s =>
    obtain ⟨hempty, hhere, hup, -⟩ := h
    simp [ofPiece?, text, hempty, hhere, hup]

theorem text_ne_here : c.text ≠ "." := by
  intro heq
  have hread := h.ofPiece?_text
  simp [ofPiece?, heq] at hread

theorem text_ne_empty : c.text ≠ "" := by
  intro heq
  have hread := h.ofPiece?_text
  simp [ofPiece?, heq] at hread

end Component.Plain

theorem plain_of_ofPiece? {piece : String} {c : Component} (hslash : '/' ∉ piece.toList)
    (h : Component.ofPiece? piece = some c) : c.Plain := by
  unfold Component.ofPiece? at h
  split_ifs at h with hskip hup
  · obtain rfl := Option.some.inj h
    trivial
  · obtain rfl := Option.some.inj h
    rw [not_or] at hskip
    exact ⟨hskip.1, hskip.2, hup, hslash⟩

theorem pieces_no_slash {p : HostPath} {piece : String} (h : piece ∈ p.pieces) :
    '/' ∉ piece.toList := by
  have hall : piece ∈ (p.text.toList.splitOn '/').map String.ofList := by
    unfold pieces at h
    split_ifs at h
    · exact List.mem_of_mem_tail h
    · exact h
  obtain ⟨cs, hcs, rfl⟩ := List.mem_map.mp hall
  rw [List.splitOn_eq_splitOnP] at hcs
  intro hmem
  simpa using forall_not_of_mem_splitOnP _ _ hcs '/' (by simpa using hmem)

theorem filterMap_ofPiece?_text {body : List Component} (h : ∀ c ∈ body, c.Plain) :
    (body.map Component.text).filterMap Component.ofPiece? = body := by
  induction body with
  | nil => rfl
  | cons c body ih =>
    rw [List.map_cons, List.filterMap_cons, (h c (by simp)).ofPiece?_text,
      ih fun d hd => h d (by simp [hd])]

/-- Plain components are the pieces of the text that they are written as. -/
theorem splitOn_intercalate_text {body : List Component} (h : ∀ c ∈ body, c.Plain)
    (hne : body ≠ []) :
    (("/".intercalate (body.map Component.text)).toList.splitOn '/').map String.ofList =
      body.map Component.text := by
  have hsplit : ("/".intercalate (body.map Component.text)).toList.splitOn '/' =
      (body.map Component.text).map String.toList := by
    rw [String.toList_intercalate]
    apply List.splitOn_intercalate
    · intro l hl
      obtain ⟨s, hs, rfl⟩ := List.mem_map.mp hl
      obtain ⟨c, hc, rfl⟩ := List.mem_map.mp hs
      exact (h c hc).no_slash
    · simpa using hne
  rw [hsplit, List.map_map]
  simp [Function.comp_def]

theorem filterMap_splitOn_intercalate {body : List Component} (h : ∀ c ∈ body, c.Plain) :
    ((("/".intercalate (body.map Component.text)).toList.splitOn '/').map
      String.ofList).filterMap Component.ofPiece? = body := by
  by_cases hnil : body = []
  · subst hnil
    rfl
  · rw [splitOn_intercalate_text h hnil, filterMap_ofPiece?_text h]

theorem head?_intercalate {body : List Component} (h : ∀ c ∈ body, c.Plain) :
    ("/".intercalate (body.map Component.text)).toList.head? ≠ some '/' := by
  cases body with
  | nil => simp
  | cons c body =>
    have hc := h c (by simp)
    obtain ⟨d, ds, hd⟩ := List.exists_cons_of_ne_nil
      (fun hnil => hc.text_ne_empty (String.toList_eq_nil_iff.mp hnil))
    have hslash := hc.no_slash
    rw [hd] at hslash
    have hhead : ("/".intercalate ((c :: body).map Component.text)).toList.head? = some d := by
      rw [String.toList_intercalate]
      cases body <;> simp [hd]
    rw [hhead]
    rintro ⟨rfl⟩
    simp at hslash

theorem ofComponents_plain {body : List Component} (h : ∀ c ∈ body, c.Plain) :
    ofComponents body = ⟨"/".intercalate (body.map Component.text)⟩ := by
  cases body with
  | nil => rfl
  | cons c body =>
    cases c with
    | root => exact (h .root (by simp)).elim
    | here => rfl
    | up => rfl
    | name s => rfl

/-- A normal form reads back as the components that it was written from. -/
theorem components_ofComponents {cs : List Component} (h : Normal cs) :
    (ofComponents cs).components = cs := by
  obtain ⟨body, hbody, heq | heq⟩ := h
  · subst cs
    have hrel : (ofComponents body).isAbsolute = false := by
      rw [ofComponents_plain hbody]
      simpa [isAbsolute] using head?_intercalate hbody
    have hpieces : (ofComponents body).pieces =
        (("/".intercalate (body.map Component.text)).toList.splitOn '/').map String.ofList := by
      rw [pieces, hrel, ofComponents_plain hbody]
      rfl
    have hhere : (ofComponents body).startsHere = false := by
      simp only [startsHere, hrel, Bool.not_false, Bool.true_and, decide_eq_false_iff_not, hpieces]
      by_cases hnil : body = []
      · subst hnil
        decide
      · rw [splitOn_intercalate_text hbody hnil]
        obtain ⟨c, rest, rfl⟩ := List.exists_cons_of_ne_nil hnil
        simpa using (hbody c (by simp)).text_ne_here
    simp only [components, hrel, hhere, hpieces, Bool.false_eq_true, if_false]
    exact filterMap_splitOn_intercalate hbody
  · subst cs
    have htext : (ofComponents (.root :: body)).text.toList =
        '/' :: ("/".intercalate (body.map Component.text)).toList := by
      simp [ofComponents]
    have habs : (ofComponents (.root :: body)).isAbsolute = true := by
      simp [isAbsolute, htext]
    have hpieces : (ofComponents (.root :: body)).pieces =
        (("/".intercalate (body.map Component.text)).toList.splitOn '/').map String.ofList := by
      simp only [pieces, habs, if_true, htext]
      rw [List.splitOn_cons_eq_if_modifyHead]
      simp
    simp only [components, habs, hpieces, if_true]
    rw [filterMap_splitOn_intercalate hbody]

/-- The reversed components of a normal form, as they are built up. -/
def NormalStack (stack : List Component) : Prop :=
  ∃ body, (∀ c ∈ body, c.Plain) ∧ (stack = body ∨ stack = body ++ [.root])

theorem NormalStack.normal {stack : List Component} (h : NormalStack stack) :
    Normal stack.reverse := by
  obtain ⟨body, hbody, heq | heq⟩ := h
  · exact ⟨body.reverse, by simpa using hbody, Or.inl (by rw [heq])⟩
  · exact ⟨body.reverse, by simpa using hbody, Or.inr (by simp [heq])⟩

/-- A climb takes off whatever is neither root nor nothing. -/
theorem normalizeStep_up {d : Component} (hd : d.Plain) (below : List Component) :
    normalizeStep (d :: below) .up = below := by
  cases d with
  | root => exact hd.elim
  | here => exact hd.elim
  | up => rfl
  | name s => rfl

theorem normalizeStep_normal {stack : List Component} {c : Component} (hstack : NormalStack stack)
    (hc : c = .here ∨ c.Plain) : NormalStack (normalizeStep stack c) := by
  obtain ⟨body, hbody, hstack⟩ := hstack
  have hpush : ∀ d : Component, d.Plain → NormalStack (d :: stack) := by
    intro d hd
    refine ⟨d :: body, ?_, ?_⟩
    · intro e he
      rcases List.mem_cons.mp he with rfl | he
      · exact hd
      · exact hbody e he
    · rcases hstack with rfl | rfl
      · exact Or.inl rfl
      · exact Or.inr rfl
  cases c with
  | here => exact ⟨body, hbody, hstack⟩
  | root => simp [Component.Plain] at hc
  | name s => exact hpush (.name s) (by simpa using hc)
  | up =>
    cases body with
    | nil =>
      rcases hstack with rfl | rfl
      · exact hpush .up trivial
      · exact hpush .up trivial
    | cons d body =>
      have hd := hbody d (by simp)
      have hbelow : ∀ e ∈ body, e.Plain := fun e he => hbody e (by simp [he])
      rcases hstack with rfl | rfl
      · exact ⟨body, hbelow, Or.inl (normalizeStep_up hd body)⟩
      · exact ⟨body, hbelow, Or.inr (normalizeStep_up hd (body ++ [Component.root]))⟩

theorem foldl_normalizeStep_normal {stack cs : List Component} (hstack : NormalStack stack)
    (hcs : ∀ c ∈ cs, c = .here ∨ c.Plain) : NormalStack (cs.foldl normalizeStep stack) := by
  induction cs generalizing stack with
  | nil => exact hstack
  | cons c cs ih =>
    exact ih (normalizeStep_normal hstack (hcs c (by simp))) fun d hd => hcs d (by simp [hd])

/-- After the root of an absolute path, components are plain, but for a dot that starts a relative
path. -/
theorem components_eq (p : HostPath) : ∃ body : List Component,
    (∀ c ∈ body, c = .here ∨ c.Plain) ∧
      p.components = (if p.isAbsolute then [.root] else []) ++ body := by
  have hbody : ∀ c ∈ p.pieces.filterMap Component.ofPiece?, c = .here ∨ c.Plain := by
    intro c hc
    obtain ⟨piece, hpiece, hc⟩ := List.mem_filterMap.mp hc
    exact Or.inr (plain_of_ofPiece? (pieces_no_slash hpiece) hc)
  unfold components
  split_ifs
  · exact ⟨_, hbody, rfl⟩
  · exact ⟨.here :: _, by simpa using hbody, rfl⟩
  · exact ⟨_, hbody, rfl⟩

theorem normal_components (p : HostPath) :
    Normal (p.components.foldl normalizeStep []).reverse := by
  apply NormalStack.normal
  obtain ⟨body, hbody, h⟩ := components_eq p
  rw [h, List.foldl_append]
  split_ifs
  · exact foldl_normalizeStep_normal ⟨[], by simp, Or.inr rfl⟩ hbody
  · exact foldl_normalizeStep_normal ⟨[], by simp, Or.inl rfl⟩ hbody

theorem components_normalize (p : HostPath) :
    p.normalize.components = (p.components.foldl normalizeStep []).reverse :=
  components_ofComponents (normal_components p)

/-- Two normal forms name the same path only when they are the same text. -/
theorem same_normalize_iff (p q : HostPath) :
    p.normalize.same q.normalize = true ↔ p.normalize = q.normalize := by
  simp only [same, decide_eq_true_eq, components_normalize]
  constructor
  · intro h
    rw [normalize, normalize, h]
  · intro h
    rw [← components_normalize, ← components_normalize, h]

/-- What a normal form starts with: a root or none, and a climb or none. -/
def start (rooted climbs : Bool) : List Component :=
  (if rooted then [.root] else []) ++ if climbs then [.up] else []

/-- A way that climbs so many levels and then goes down along names, the last one first, taken one
component further. -/
def trailStep : ℕ × List String → Component → ℕ × List String
  | _, .root => (0, [])
  | (climbs, names), .here => (climbs, names)
  | (climbs, []), .up => (climbs + 1, [])
  | (climbs, _ :: names), .up => (climbs, names)
  | (climbs, names), .name s => (climbs, s :: names)

/-- How many levels a path climbs out of where it starts, and the names that it goes down from
there, the last one first. -/
def trail (p : HostPath) : ℕ × List String := p.components.foldl trailStep (0, [])

def climbs (p : HostPath) : ℕ := p.trail.1

theorem trailStep_plain {climbs : ℕ} {names : List String}
    (hnames : ∀ n ∈ names, (Component.name n).Plain) {c : Component} (hc : c = .here ∨ c.Plain) :
    ∀ n ∈ (trailStep (climbs, names) c).2, (Component.name n).Plain := by
  cases c with
  | here => exact hnames
  | root => simp [Component.Plain] at hc
  | name s => exact List.forall_mem_cons.mpr ⟨hc.resolve_left (by simp), hnames⟩
  | up =>
    cases names with
    | nil => exact hnames
    | cons n names => exact fun m hm => hnames m (List.mem_cons_of_mem n hm)

/-- Where no name is left, a climb stays as a component if none stands there yet, and takes that one
off again otherwise. -/
theorem normalizeStep_trail {climbs : ℕ} {names : List String}
    (hnames : ∀ n ∈ names, (Component.name n).Plain) (rooted : Bool) {c : Component}
    (hc : c = .here ∨ c.Plain) :
    normalizeStep (names.map .name ++ (start rooted (climbs % 2 = 1)).reverse) c =
      (trailStep (climbs, names) c).2.map .name ++
        (start rooted ((trailStep (climbs, names) c).1 % 2 = 1)).reverse := by
  cases c with
  | here => rfl
  | root => simp [Component.Plain] at hc
  | name s => rfl
  | up =>
    cases names with
    | nil =>
      rcases Nat.mod_two_eq_zero_or_one climbs with heven | hodd
      · have hnext : (climbs + 1) % 2 = 1 := by omega
        simp only [trailStep, heven, hnext]
        cases rooted <;> rfl
      · have hnext : (climbs + 1) % 2 = 0 := by omega
        simp only [trailStep, hodd, hnext]
        cases rooted <;> rfl
    | cons n names => exact normalizeStep_up (hnames n (by simp)) _

theorem foldl_normalizeStep_trail {cs : List Component} (hcs : ∀ c ∈ cs, c = .here ∨ c.Plain)
    (climbs : ℕ) {names : List String} (hnames : ∀ n ∈ names, (Component.name n).Plain)
    (rooted : Bool) :
    (∀ n ∈ (cs.foldl trailStep (climbs, names)).2, (Component.name n).Plain) ∧
      cs.foldl normalizeStep (names.map .name ++ (start rooted (climbs % 2 = 1)).reverse) =
        (cs.foldl trailStep (climbs, names)).2.map .name ++
          (start rooted ((cs.foldl trailStep (climbs, names)).1 % 2 = 1)).reverse := by
  induction cs generalizing climbs names with
  | nil => exact ⟨hnames, rfl⟩
  | cons c cs ih =>
    have hc := hcs c (by simp)
    rw [List.foldl_cons, List.foldl_cons, normalizeStep_trail hnames rooted hc]
    exact ih (fun d hd => hcs d (by simp [hd])) _ (trailStep_plain hnames hc)

/-- The start of a normal form says only whether the path climbs an odd number of levels; its names
follow. -/
theorem components_normalize_eq (p : HostPath) :
    (∀ n ∈ p.trail.2, (Component.name n).Plain) ∧
      p.normalize.components =
        start p.isAbsolute (p.climbs % 2 = 1) ++ p.trail.2.reverse.map .name := by
  obtain ⟨body, hbody, hcomponents⟩ : ∃ body : List Component,
      (∀ c ∈ body, c = .here ∨ c.Plain) ∧ p.components = start p.isAbsolute false ++ body := by
    obtain ⟨body, hbody, h⟩ := components_eq p
    exact ⟨body, hbody, by simpa [start] using h⟩
  have hroot : (start p.isAbsolute false).foldl normalizeStep [] =
      (start p.isAbsolute false).reverse := by
    cases p.isAbsolute <;> rfl
  have htrail : p.trail = body.foldl trailStep (0, []) := by
    rw [trail, hcomponents, List.foldl_append]
    cases p.isAbsolute <;> rfl
  obtain ⟨hnames, hstack⟩ :=
    foldl_normalizeStep_trail hbody 0 (List.forall_mem_nil _) p.isAbsolute
  rw [← htrail] at hnames hstack
  refine ⟨hnames, ?_⟩
  rw [List.map_nil, List.nil_append] at hstack
  rw [components_normalize, hcomponents, List.foldl_append, hroot]
  have hnone : start p.isAbsolute false = start p.isAbsolute (0 % 2 = 1) := rfl
  rw [hnone, hstack, List.reverse_append, List.reverse_reverse, List.map_reverse, climbs]

/-- In a normal form only names follow the start. -/
theorem normalize_eq_start (p : HostPath) : ∃ (climbs : Bool) (names : List String),
    (∀ n ∈ names, (Component.name n).Plain) ∧
      p.normalize = ofComponents (start p.isAbsolute climbs ++ names.map .name) := by
  obtain ⟨hnames, heq⟩ := components_normalize_eq p
  refine ⟨p.climbs % 2 = 1, p.trail.2.reverse, ?_, ?_⟩
  · exact fun n hn => hnames n (List.mem_reverse.mp hn)
  · rw [← heq, components_normalize, normalize]

section Absolute

variable {p q : HostPath}

theorem isAbsolute_normalize (h : p.isAbsolute = true) : p.normalize.isAbsolute = true := by
  obtain ⟨climbs, names, -, heq⟩ := normalize_eq_start p
  rw [heq, h]
  cases climbs <;> simp [start, ofComponents, isAbsolute]

theorem isAbsolute_join (h : p.isAbsolute = true) : (p.join q).isAbsolute = true := by
  unfold join
  split_ifs with hq
  · exact hq
  all_goals
    obtain ⟨rest, hrest⟩ : ∃ rest, p.text.toList = '/' :: rest := by
      simpa [isAbsolute, List.head?_eq_some_iff] using h
    simp [isAbsolute, hrest]

theorem isAbsolute_parent? (h : p.isAbsolute = true) (hparent : p.parent? = some q) :
    q.isAbsolute = true := by
  have hhere : p.startsHere = false := by simp [startsHere, h]
  unfold parent? at hparent
  split at hparent
  · simp [hhere] at hparent
  · obtain rfl := Option.some.inj hparent
    simp only [h, if_true]
    simp [isAbsolute]

end Absolute

end TreeLint.HostPath
