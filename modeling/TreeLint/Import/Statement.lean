import TreeLint.Import.Reader

/-!
The statements and calls by which a source file names another module.
-/
namespace TreeLint.Import

/-- How a module is named: by a statement, by a statement for types only, by a call of `import`, or
by a call of `require`. -/
inductive EdgeKind
  | static
  | typeOnly
  | dynamic
  | require
deriving DecidableEq, Repr

def EdgeKind.name : EdgeKind → String
  | .static => "static"
  | .typeOnly => "type-only"
  | .dynamic => "dynamic"
  | .require => "require"

def isQuote (c : Char) : Bool := c = '\'' || c = '"'

/-- A specifier between quotes, on one line. -/
def quoted : Reader String := fun c =>
  match c.rest with
  | [] => []
  | opening :: rest =>
    let specifier := rest.takeWhile fun x => !isQuote x && x != '\n'
    match rest.drop specifier.length with
    | closing :: rest =>
      if isQuote opening && !specifier.isEmpty && isQuote closing then
        [(String.ofList specifier, ⟨some closing, rest⟩)]
      else []
    | [] => []

open Reader

/-- The word `type`, if it stands here and something follows it. -/
def typeMark : Reader EdgeKind :=
  orElse (do text "type"; blanks1; return .typeOnly) (pure .static)

/-- The text up to the next quote or semicolon. -/
def clause : Reader (List Char) := fun c =>
  let text := c.rest.takeWhile fun x => !isQuote x && x != ';'
  [(text, ⟨text.getLast?.or c.before, c.rest.drop text.length⟩)]

/-- Whether a text that starts with a blank leads on to a specifier: it is all blank, or ends with
the word `from` and perhaps blanks. -/
def leadsOn (cs : List Char) : Bool :=
  match cs.reverse.dropWhile Unicode.isSpace with
  | [] => true
  | 'm' :: 'o' :: 'r' :: 'f' :: before :: _ => !Unicode.isWord before
  | _ => false

/-- The kind of an import with this text between the word `import` and its specifier. -/
def importKind? (cs : List Char) : Option EdgeKind :=
  let startsBlank (cs : List Char) : Bool := cs.head?.any Unicode.isSpace
  let afterType := (cs.dropWhile Unicode.isSpace).drop 4
  let saysType := (cs.dropWhile Unicode.isSpace).take 4 == ['t', 'y', 'p', 'e']
  if !startsBlank cs then none
  else if saysType && startsBlank afterType && leadsOn afterType then some .typeOnly
  else if leadsOn cs then some .static
  else none

/-- An import statement, with what it binds or without. -/
def importStatement : Reader (EdgeKind × String) := do
  boundary; text "import"
  let kind ← ofOption (importKind? (← clause))
  return (kind, ← quoted)

/-- Everything in braces. -/
def braced : Reader Unit := fun c =>
  match c.rest with
  | '\x7b' :: rest =>
    match rest.dropWhile (· ≠ '\x7d') with
    | closing :: rest => [((), ⟨some closing, rest⟩)]
    | [] => []
  | _ => []

/-- What a statement passes on: everything, everything under a name, or a list in braces. -/
def exported : Reader Unit :=
  orElse
    (do text "*"
        orElse (do blanks1; text "as"; blanks1; many1 fun c => Unicode.isWord c || c = '$') (pure ()))
    braced

/-- An export statement that passes on what another module exports. -/
def exportStatement : Reader (EdgeKind × String) := do
  boundary; text "export"; blanks1
  let kind ← typeMark
  exported; blanks; text "from"; blanks
  return (kind, ← quoted)

/-- A call of `function` on one specifier. -/
def call (function : String) (kind : EdgeKind) : Reader (EdgeKind × String) := do
  boundary; text function; blanks; text "("; blanks
  let specifier ← quoted
  blanks; text ")"
  return (kind, specifier)

def importCall : Reader (EdgeKind × String) := call "import" .dynamic

def requireCall : Reader (EdgeKind × String) := call "require" .require

end TreeLint.Import
