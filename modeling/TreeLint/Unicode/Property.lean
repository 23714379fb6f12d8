import TreeLint.Unicode.Age
import TreeLint.Unicode.Breaks

/-!
Properties of characters by their names.
-/
namespace TreeLint.Unicode.Property

/-- Names are compared without regard to case, blanks, dashes and underscores; an `is` at their very
start says nothing, unless only a `c` comes after it. -/
def normalize (name : List Char) : String :=
  let startsWithIs := (name.take 2).map Char.toLower == ['i', 's']
  let key := ((if startsWithIs then name.drop 2 else name).filter fun c =>
    c.toNat < 128 && c != ' ' && c != '-' && c != '_').map Char.toLower
  if startsWithIs && key == ['c'] then "isc" else String.ofList key

/-- The characters of a property, a category or a script, by its name alone. -/
def find? (name : List Char) : Option CharSet :=
  let key := normalize name
  Binary.ofName? key <|> Category.ofName? key <|> Script.ofName? key

/-- The characters for which a property has a value. -/
def findValue? (name value : List Char) : Option CharSet :=
  let value := normalize value
  match normalize name with
  | "generalcategory" | "gc" => Category.ofName? value
  | "script" | "sc" => Script.ofName? value
  | "scriptextensions" | "scx" => Script.usedBy? value
  | "age" => Age.ofName? value
  | "graphemeclusterbreak" | "gcb" => ClusterBreak.ofName? value
  | "wordbreak" | "wb" => WordBreak.ofName? value
  | "sentencebreak" | "sb" => SentenceBreak.ofName? value
  | _ => none

end TreeLint.Unicode.Property
