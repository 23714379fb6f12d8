import TreeLint.Value

/-!
Tables under construction. A table is given once, by a header, by keys with dots or by its parts;
what was given in one way is not given again in another.
-/
namespace TreeLint.Toml

/-- How a table came about: by a header or in braces, as a part of a longer header, or by keys with
dots. -/
inductive Origin
  | explicit
  | implicit
  | dotted
deriving DecidableEq, Repr

/-- A table, or what stands in one: a value, a table, or a list of tables, the last one first. -/
inductive Item
  | value (v : Value)
  | table (origin : Origin) (entries : List (String × Item))
  | tables (reversed : List (List (String × Item)))
deriving Inhabited

abbrev Entries := List (String × Item)

def find? (key : String) : Entries → Option Item
  | [] => none
  | (k, x) :: rest => if k = key then some x else find? key rest

def replace (key : String) (item : Item) : Entries → Entries
  | [] => [(key, item)]
  | (k, x) :: rest => if k = key then (k, item) :: rest else (k, x) :: replace key item rest

def remove (key : String) (entries : Entries) : Entries := entries.filter (·.1 ≠ key)

/-- Follows the parts of a header to a table and changes it by `f`. -/
def atHeader? (f : Entries → Option Entries) : List String → Entries → Option Entries
  | [], entries => f entries
  | key :: path, entries =>
    match find? key entries with
    | none => do
      let inner ← atHeader? f path []
      return replace key (.table .implicit inner) entries
    | some (.table origin inner) => do
      let inner ← atHeader? f path inner
      return replace key (.table origin inner) entries
    | some (.tables (last :: before)) => do
      let last ← atHeader? f path last
      return replace key (.tables (last :: before)) entries
    | some _ => none

/-- Gives a new key a value. -/
def addValue? (key : String) (v : Value) (entries : Entries) : Option Entries :=
  if (find? key entries).isSome then none else some (entries ++ [(key, .value v)])

/-- Follows the parts of a key with dots and gives the last one a value. Tables that were given by
a header stay closed. -/
def setDotted? (key : String) (v : Value) : List String → Entries → Option Entries
  | [], entries => addValue? key v entries
  | part :: path, entries =>
    match find? part entries with
    | none => do
      let inner ← setDotted? key v path []
      return replace part (.table .dotted inner) entries
    | some (.table origin inner) => do
      guard (origin ≠ .explicit && (origin = .dotted || !path.isEmpty))
      let inner ← setDotted? key v path inner
      return replace part (.table origin inner) entries
    | some (.tables (last :: before)) => do
      guard !path.isEmpty
      let last ← setDotted? key v path last
      return replace part (.tables (last :: before)) entries
    | some _ => none

/-- A document under construction: all tables but the one that is open, the path and kind of the
open one, and its entries. -/
structure Draft where
  root : Entries := []
  path : List String := []
  isArray : Bool := false
  current : Entries := []

namespace Draft

/-- Puts the open table in its place. -/
def close? (d : Draft) : Option Entries :=
  match d.path.getLast? with
  | none => some d.current
  | some key =>
    atHeader? (fun parent =>
      match d.isArray, find? key parent with
      | true, none => some (replace key (.tables [d.current]) parent)
      | true, some (.tables earlier) => some (replace key (.tables (d.current :: earlier)) parent)
      | false, none => some (replace key (.table .explicit d.current) parent)
      | false, some (.table .implicit _) => some (replace key (.table .explicit d.current) parent)
      | _, _ => none) d.path.dropLast d.root

/-- What stands at a path. Of a list of tables the last one counts. -/
def lookUp? (key : String) : List String → Entries → Option Item
  | [], entries => find? key entries
  | part :: rest, entries =>
    match find? part entries with
    | some (.table _ inner) => lookUp? key rest inner
    | some (.tables (last :: _)) => lookUp? key rest last
    | _ => none

/-- The table that a header opens again, and the document without it. Only a table that was a part
of a longer header is opened again. -/
def reopen? (path : List String) (root : Entries) : Option (Entries × Entries) :=
  match path.getLast? with
  | none => none
  | some key => do
    let root ← atHeader? some path.dropLast root
    match lookUp? key path.dropLast root with
    | none => return ([], root)
    | some (.table .implicit inner) =>
      let root ← atHeader? (fun parent => some (remove key parent)) path.dropLast root
      return (inner, root)
    | some _ => none

/-- Opens the table of a header. -/
def openTable? (d : Draft) (path : List String) : Option Draft := do
  let root ← d.close?
  let (current, root) ← reopen? path root
  return ⟨root, path, false, current⟩

/-- Opens a new table at the end of the list that a header names. -/
def openArray? (d : Draft) (path : List String) : Option Draft := do
  let root ← d.close?
  let key ← path.getLast?
  let root ← atHeader? (fun parent =>
    match find? key parent with
    | none | some (.tables _) => some parent
    | some _ => none) path.dropLast root
  return ⟨root, path, true, []⟩

/-- Gives a key of the open table a value. -/
def set? (d : Draft) (path : List String) (v : Value) : Option Draft := do
  let key ← path.getLast?
  return { d with current := ← setDotted? key v path.dropLast d.current }

end Draft

mutual

def Item.toValue : Item → Value
  | .value v => v
  | .table _ entries => .ofMembers (membersOf entries)
  | .tables reversed => .array (objectsOf reversed).reverse

def membersOf : List (String × Item) → List (String × Value)
  | [] => []
  | (k, x) :: rest => (k, x.toValue) :: membersOf rest

def objectsOf : List (List (String × Item)) → List Value
  | [] => []
  | entries :: rest => .ofMembers (membersOf entries) :: objectsOf rest

end

end TreeLint.Toml
