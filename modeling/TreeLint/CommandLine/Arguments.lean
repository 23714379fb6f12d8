import TreeLint.HostPath
import TreeLint.Severity

/-!
Reading the arguments of the program. Options stand before or after the name of a command; those
that every command has may stand on both sides, and then the inner one counts.
-/
namespace TreeLint

inductive OutputFormat
  | text
  | json
  | compact
deriving DecidableEq, Repr

def OutputFormat.ofName? : String → Option OutputFormat
  | "text" => some .text
  | "json" => some .json
  | "compact" => some .compact
  | _ => none

/-- The mildest finding that makes a check fail, if any does. -/
structure FailOn where
  threshold : Option Severity
deriving DecidableEq, Repr

def FailOn.ofName? : String → Option FailOn
  | "error" => some ⟨some .error⟩
  | "warning" => some ⟨some .warning⟩
  | "info" => some ⟨some .info⟩
  | "never" => some ⟨none⟩
  | _ => none

/-- What the program is asked to do. -/
inductive Command
  | check (path : HostPath) (format : OutputFormat) (failOn : FailOn)
  | validate (path : HostPath)
  | listRules
deriving DecidableEq, Repr

/-- A command with the options that every command has. -/
structure Invocation where
  verbose : Bool
  config : Option HostPath
  command : Command
deriving DecidableEq, Repr

/-- Why no command is run. -/
inductive Refusal
  | usage
  | help
  | version
deriving DecidableEq, Repr

namespace Arguments

inductive Flag
  | verbose
  | config
  | format
  | failOn
  | noParallel
  | help
  | version
deriving DecidableEq, Repr

namespace Flag

def long : Flag → String
  | .verbose => "verbose"
  | .config => "config"
  | .format => "format"
  | .failOn => "fail-on"
  | .noParallel => "no-parallel"
  | .help => "help"
  | .version => "version"

def short? : Flag → Option Char
  | .verbose => some 'v'
  | .config => some 'c'
  | .format => some 'f'
  | .help => some 'h'
  | .version => some 'V'
  | .failOn | .noParallel => none

def takesValue : Flag → Bool
  | .config | .format | .failOn => true
  | _ => false

/-- Whether a text can be the value of a flag. -/
def accepts (text : String) : Flag → Bool
  | .config => text ≠ ""
  | .format => (OutputFormat.ofName? text).isSome
  | .failOn => (FailOn.ofName? text).isSome
  | _ => true

end Flag

/-- The part of a command line that is read: what stands before the name of the command, or after. -/
inductive Level
  | outer
  | check
  | validate
  | listRules
deriving DecidableEq, Repr

namespace Level

def flags : Level → List Flag
  | .outer => [.verbose, .config, .help, .version]
  | .check => [.verbose, .config, .format, .failOn, .noParallel, .help]
  | .validate | .listRules => [.verbose, .config, .help]

def ofName? : String → Option Level
  | "check" => some .check
  | "validate" => some .validate
  | "list-rules" => some .listRules
  | _ => none

/-- Whether a command takes the path of a project. -/
def takesPath : Level → Bool
  | .check | .validate => true
  | _ => false

def longFlag? (l : Level) (name : String) : Option Flag := l.flags.find? (·.long = name)

def shortFlag? (l : Level) (c : Char) : Option Flag := l.flags.find? (·.short? = some c)

end Level

/-- What has been read at one level. -/
structure Given where
  values : List (Flag × String) := []
  path : Option String := none
deriving DecidableEq, Repr

namespace Given

def value? (g : Given) (flag : Flag) : Option String := g.values.lookup flag

def has (g : Given) (flag : Flag) : Bool := (g.value? flag).isSome

/-- Adds a flag. None may be given twice. -/
def add (g : Given) (flag : Flag) (text : String) : Except Refusal Given :=
  match flag with
  | .help => .error .help
  | .version => .error .version
  | flag =>
    if g.has flag || !flag.accepts text then .error .usage
    else .ok { g with values := (flag, text) :: g.values }

/-- Adds the path of the project. There is one at most. -/
def addPath (g : Given) (l : Level) (text : String) : Except Refusal Given :=
  if l.takesPath && g.path.isNone && text ≠ "" then .ok { g with path := some text }
  else .error .usage

end Given

/-- What one argument asks for: to be added as it is, or a value that has to follow. -/
inductive Reading
  | done (given : Given)
  | pending (given : Given) (flag : Flag)

/-- Reads an argument that starts with two dashes, of which `text` follows these. -/
def readLong (l : Level) (g : Given) (text : List Char) : Except Refusal Reading :=
  let name := String.ofList (text.takeWhile (· ≠ '='))
  let value? := (text.dropWhile (· ≠ '=')).tail?.map String.ofList
  match l.longFlag? name with
  | none => .error .usage
  | some flag =>
    match flag.takesValue, value? with
    | true, some value => .done <$> g.add flag value
    | true, none => .ok (.pending g flag)
    | false, none => .done <$> g.add flag ""
    | false, some _ => .error .usage

/-- Reads flags of one letter each. A value may follow the letter that takes one. -/
def readShort (l : Level) (g : Given) : List Char → Except Refusal Reading
  | [] => .ok (.done g)
  | c :: rest =>
    match l.shortFlag? c with
    | none => .error .usage
    | some flag =>
      if flag.takesValue then
        match rest with
        | [] => .ok (.pending g flag)
        | '=' :: value => .done <$> g.add flag (String.ofList value)
        | value => .done <$> g.add flag (String.ofList value)
      else
        match g.add flag "" with
        | .ok g => readShort l g rest
        | .error e => .error e

/-- Whether an argument is no value, but a flag or the mark that ends the flags. -/
def isFlagLike : List Char → Bool
  | '-' :: _ :: _ => true
  | _ => false

/-- Everything is the path of the project after the mark that ends the flags. -/
def readPaths (l : Level) (g : Given) (args : List String) : Except Refusal Given :=
  args.foldlM (fun g text => g.addPath l text) g

/-- Reads the arguments of a level; `pending` is the flag that waits for its value. Before the name
of a command, reading stops there, and the arguments after it are left. -/
def readLevel (l : Level) (g : Given) (pending : Option Flag) :
    List String → Except Refusal (Given × Option (String × List String))
  | [] => if pending.isSome then .error .usage else .ok (g, none)
  | arg :: rest =>
    match pending, isFlagLike arg.toList with
    | some _, true => .error .usage
    | some flag, false => do readLevel l (← g.add flag arg) none rest
    | none, false =>
      if l = .outer then .ok (g, some (arg, rest))
      else do readLevel l (← g.addPath l arg) none rest
    | none, true =>
      match arg.toList with
      | ['-', '-'] => do return (← readPaths l g rest, none)
      | '-' :: '-' :: text => do
        match ← readLong l g text with
        | .done g => readLevel l g none rest
        | .pending g flag => readLevel l g (some flag) rest
      | text => do
        match ← readShort l g text.tail with
        | .done g => readLevel l g none rest
        | .pending g flag => readLevel l g (some flag) rest

/-- The path of the project, where the program is run unless it is given. -/
def pathOf (g : Given) : HostPath := ⟨g.path.getD "."⟩

def formatOf (g : Given) : OutputFormat :=
  ((g.value? .format).bind OutputFormat.ofName?).getD .text

def failOnOf (g : Given) : FailOn :=
  ((g.value? .failOn).bind FailOn.ofName?).getD ⟨some .warning⟩

def commandOf (g : Given) : Level → Option Command
  | .check => some (.check (pathOf g) (formatOf g) (failOnOf g))
  | .validate => some (.validate (pathOf g))
  | .listRules => some .listRules
  | .outer => none

/-- The names after `help` have to be those of one command at most. -/
def readHelp : List String → Refusal
  | [] => .help
  | [name] => if name = "help" || (Level.ofName? name).isSome then .help else .usage
  | _ => .usage

/-- Reads all arguments. `preset` is the configuration that the environment names; it counts where
none is given, and then it must not be empty. -/
def read (args : List String) (preset : Option String) : Except Refusal Invocation := do
  let (outer, next) ← readLevel .outer {} none args
  let some (name, rest) := next | throw .usage
  if name = "help" then throw (readHelp rest)
  let some level := Level.ofName? name | throw .usage
  let (inner, _) ← readLevel level {} none rest
  let own := (inner.value? .config).or (outer.value? .config)
  if preset = some "" && !(inner.has .config && outer.has .config) then throw .usage
  let some command := commandOf inner level | throw .usage
  return ⟨inner.has .verbose || outer.has .verbose, (own.or preset).map HostPath.mk, command⟩

end Arguments
end TreeLint
