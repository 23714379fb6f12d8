/-!
Questions asked of all suffixes of a list. A row answers one for each suffix, from the whole list
down to the empty one, so that the answers for one question can be found from those for another in
one pass. Main statements: rows that are built by the operations here hold the right answers.
-/
namespace TreeLint

/-- Whether some suffix of a list, be it the empty one, satisfies `f`. -/
def someSuffix {α : Type} (f : List α → Bool) : List α → Bool
  | [] => f []
  | x :: xs => f (x :: xs) || someSuffix f xs

/-- Whether a list starts with an element that passes a test, and `f` holds of the rest. -/
def startsWithOne {α : Type} (test : α → Bool) (f : List α → Bool) : List α → Bool
  | [] => false
  | x :: xs => test x && f xs

/-- The answers to a question, one for each suffix. -/
def rowOf {α : Type} (f : List α → Bool) : List α → List Bool
  | [] => [f []]
  | x :: xs => f (x :: xs) :: rowOf f xs

/-- The row that tells whether a suffix has a suffix of which `row` holds. -/
def someRow : List Bool → List Bool
  | [] => []
  | b :: rest =>
    let later := someRow rest
    (b || later.headD false) :: later

/-- The row that tells whether a suffix starts with an element that passes a test, and `row` holds
of the rest. -/
def oneRow {α : Type} (test : α → Bool) : List α → List Bool → List Bool
  | x :: xs, _ :: row => (test x && row.headD false) :: oneRow test xs row
  | _, _ => [false]

@[simp] theorem head?_rowOf {α : Type} (f : List α → Bool) (xs : List α) :
    (rowOf f xs).head? = some (f xs) := by
  cases xs <;> rfl

theorem someRow_rowOf {α : Type} (f : List α → Bool) (xs : List α) :
    someRow (rowOf f xs) = rowOf (someSuffix f) xs := by
  induction xs with
  | nil => simp [rowOf, someRow, someSuffix]
  | cons x xs ih => simp [rowOf, someRow, someSuffix, ih]

theorem oneRow_rowOf {α : Type} (test : α → Bool) (f : List α → Bool) (xs : List α) :
    oneRow test xs (rowOf f xs) = rowOf (startsWithOne test f) xs := by
  induction xs with
  | nil => rfl
  | cons x xs ih => simp [rowOf, oneRow, startsWithOne, ih]

end TreeLint
