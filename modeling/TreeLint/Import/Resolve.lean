import TreeLint.FileView
import TreeLint.Import.Edge

/-!
Which file of the project a specifier stands for. Only specifiers that start with a dot and a slash
are looked up.
-/
namespace TreeLint.Import

/-- What a specifier leads to. -/
inductive Target
  | file (path : ProjectPath)
  | external
  | unresolved
deriving DecidableEq, Repr

/-- The file, if there is one. -/
def Target.file? : Target → Option ProjectPath
  | .file p => some p
  | _ => none

/-- The endings that a specifier may leave out, in the order in which they are tried. -/
def sourceExtensions : List String := [".ts", ".tsx", ".js", ".jsx", ".mjs", ".cjs"]

def isRelative (specifier : String) : Bool :=
  specifier.startsWith "./" || specifier.startsWith "../"

/-- The files that `p` may stand for: itself, itself with an ending, or an index file in it. -/
def candidates (p : ProjectPath) : List ProjectPath :=
  p :: (sourceExtensions.map fun ext => p.parent.join (p.fileName ++ ext)) ++
    sourceExtensions.map fun ext => p.join ("index" ++ ext)

/-- Resolves a specifier that stands in the file `source`. -/
def resolve (view : FileView) (specifier : String) (source : ProjectPath) : Target :=
  if !isRelative specifier then .external
  else
    match source.parent.joinRelative? specifier with
    | none => .unresolved
    | some p =>
      if p.isRoot then .unresolved
      else
        match (candidates p).find? view.isFile with
        | some file => .file file
        | none => .unresolved

end TreeLint.Import
