import TreeLint.Check.Scope
import TreeLint.Line
import TreeLint.Regex.Search
import TreeLint.Rule.Spec

/-!
Checking what must, and what must not, stand in a file.
-/
namespace TreeLint.FileContent

def code : String := "CNT001"

/-- The finding for an expression that nothing in a file matches. -/
def checkRequired (s : Scope) (file : ProjectPath) (text : String) (e : Expression) :
    Option Violation :=
  match e.matcher.find? text.toList with
  | some _ => none
  | none =>
    some (s.violation code (.whole file) s!"file does not contain a match for `{e.text}`")

/-- The finding for the first match of an expression, on the line where it starts. -/
def checkForbidden (s : Scope) (file : ProjectPath) (text : String) (e : Expression) :
    Option Violation :=
  (e.matcher.find? text.toList).map fun (start, stop) =>
    let found := String.ofList ((text.toList.take stop).drop start)
    { s.violation code (.onLine file (Line.ofChar text.toList start))
        s!"file contains a match for `{e.text}`"
      with context := some s!"found `{Unicode.trim found}`" }

def checkFile (c : FileContent) (s : Scope) (file : ProjectPath) : List Violation :=
  s.inText file fun text =>
    (c.mustMatch.bind (checkRequired s file text)).toList ++
      (c.mustNotMatch.bind (checkForbidden s file text)).toList

/-- The findings in ascending order of files. -/
def check (c : FileContent) (s : Scope) : List Violation :=
  (s.filesOf c.files).flatMap (c.checkFile s)

end TreeLint.FileContent
