import TreeLint.Path

/-!
Path templates. A template holds text and placeholders in braces that stand for parts of a subject
path.
-/
namespace TreeLint

/-- The directory of the subject, its name, its name up to the first dot, and its name after that
dot. -/
inductive Placeholder
  | dir
  | name
  | stem
  | ext
deriving DecidableEq, Repr

namespace Placeholder

def key : Placeholder → String
  | .dir => "dir"
  | .name => "name"
  | .stem => "stem"
  | .ext => "ext"

def all : List Placeholder := [.dir, .name, .stem, .ext]

def ofKey? (key : String) : Option Placeholder := all.find? (·.key = key)

/-- The placeholder as it is written. -/
def written (p : Placeholder) : String := "\x7b" ++ p.key ++ "\x7d"

end Placeholder

inductive TemplatePart
  | text (s : String)
  | hole (p : Placeholder)
deriving DecidableEq, Repr

/-- Why a text is no template. -/
inductive TemplateError
  | unmatchedClose
  | unclosedOpen
  | unknownPlaceholder (key : String)
  | noParts
deriving DecidableEq, Repr

def TemplateError.message : TemplateError → String
  | .unmatchedClose => "unmatched `\x7d`"
  | .unclosedOpen => "unclosed `\x7b`"
  | .unknownPlaceholder key =>
    "unknown placeholder `\x7b" ++ key ++ "\x7d`, expected one of " ++
      ", ".intercalate (Placeholder.all.map Placeholder.written)
  | .noParts => "template is empty"

/-- A template with the text it was read from. -/
structure PathTemplate where
  text : String
  parts : List TemplatePart
deriving DecidableEq, Repr

namespace PathTemplate

/-- Text that has been read, as a part, unless it is empty. -/
def flush (reversed : List Char) : List TemplatePart :=
  if reversed.isEmpty then [] else [.text (String.ofList reversed.reverse)]

/-- Reads parts. `key` holds what was read of the placeholder that is open, `seen` the text since
the last placeholder, both in reverse. -/
def read (key : Option (List Char)) (seen : List Char) :
    List Char → Except TemplateError (List TemplatePart)
  | [] => if key.isSome then .error .unclosedOpen else .ok (flush seen)
  | c :: rest =>
    match key with
    | some reversed =>
      if c = '\x7d' then
        let written := String.ofList reversed.reverse
        match Placeholder.ofKey? written with
        | some p => (.hole p :: ·) <$> read none [] rest
        | none => .error (.unknownPlaceholder written)
      else read (some (c :: reversed)) [] rest
    | none =>
      if c = '\x7d' then .error .unmatchedClose
      else if c = '\x7b' then (flush seen ++ ·) <$> read (some []) [] rest
      else read none (c :: seen) rest

def parse (text : String) : Except TemplateError PathTemplate := do
  let parts ← read none [] text.toList
  if parts.isEmpty then throw .noParts
  return ⟨text, parts⟩

/-- A name up to its first dot. -/
def stem (name : String) : String := String.ofList (name.toList.takeWhile (· ≠ '.'))

/-- A name after its first dot, if it has one. -/
def ext (name : String) : String := String.ofList ((name.toList.dropWhile (· ≠ '.')).drop 1)

def valueOf (subject : ProjectPath) : Placeholder → String
  | .dir => subject.parent.text
  | .name => subject.fileName
  | .stem => stem subject.fileName
  | .ext => ext subject.fileName

/-- The template with its placeholders filled in. -/
def fill (t : PathTemplate) (subject : ProjectPath) : String :=
  String.join (t.parts.map fun
    | .text s => s
    | .hole p => valueOf subject p)

/-- The path that the template stands for, if it is one below the root. -/
def expand? (t : PathTemplate) (subject : ProjectPath) : Option ProjectPath :=
  (ProjectPath.normalize? (t.fill subject)).filter fun p => !p.isRoot

end PathTemplate
end TreeLint
