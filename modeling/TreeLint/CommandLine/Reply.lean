import TreeLint.CommandLine.Arguments
import TreeLint.CommandLine.Output
import TreeLint.Config.Load
import TreeLint.Rule.Problem

/-!
Carrying out commands on a disk: what is written, and the exit code.
-/
namespace TreeLint

/-- What a run of the program comes to. -/
structure Reply where
  exit : Nat
  stdout : String := ""
  stderr : String := ""
deriving DecidableEq, Repr

namespace Reply

def ok : Nat := 0

/-- The exit code when findings or problems make a run fail. -/
def failed : Nat := 1

/-- The exit code when nothing can be run. -/
def fatal : Nat := 2

def unlines (lines : List String) : String := String.join (lines.map (· ++ "\n"))

/-- A configuration that cannot be used. -/
def ofConfigError (e : ConfigError) : Reply where
  exit := fatal
  stderr := unlines (s!"{e.code}: {e.message}" :: e.help?.toList.map fun h => s!"help: {h}")

def render (r : Report) : OutputFormat → String
  | .text => r.renderText
  | .json => r.toDoc.pretty 0
  | .compact => r.renderCompact

/-- The exit code of a check. -/
def exitOf (r : Report) (failOn : FailOn) : Nat :=
  if failOn.threshold.any r.hasAtLeast then failed else ok

/-- Checks the project in `root`. -/
def check [Explanations] (d : Disk) (root : HostPath) (config : Option HostPath) (format : OutputFormat)
    (failOn : FailOn) (verbose : Bool) : Reply :=
  match d.loadConfig root config with
  | .error e => ofConfigError e
  | .ok c =>
    let view := d.view root
    let report := c.run view
    let text := render report format
    { exit := exitOf report failOn
      stdout := if text = "" then "" else text ++ "\n"
      stderr := if verbose then unlines ((c.trace view).map ("  " ++ ·)) else "" }

/-- Looks for problems in the configuration of the project in `root`. -/
def validate [Explanations] (d : Disk) (root : HostPath) (config : Option HostPath) : Reply :=
  match d.loadConfig root config with
  | .error e => ofConfigError e
  | .ok c =>
    let source := match c.source.path? with
      | some path => path.text
      | none => "built-in defaults"
    let head := s!"Config: {source}" ::
      if c.presets.isEmpty then [] else ["Presets: " ++ ", ".intercalate c.presets]
    let problems := RuleDocument.allProblems (c.rules.map (·.document))
    if problems.isEmpty then ⟨ok, unlines (head ++ [s!"{c.rules.length} rule(s) OK"]), ""⟩
    else
      ⟨failed, unlines (head ++ problems.map (fun p => s!"  - {p.message}") ++
        [s!"{problems.length} problem(s) found"]), ""⟩

/-- A path of the command line, seen from the directory where the program is run. -/
def absolute (dir path : HostPath) : HostPath := (dir.join path).normalize

def programName : String := "struct-lint"

def programVersion : String := "0.3.0"

def usage : List String := [
  "Usage: struct-lint [-v] [-c CONFIG] COMMAND",
  "",
  "Commands:",
  "  check [PATH] [-f text|json|compact] [--fail-on error|warning|info|never] [--no-parallel]",
  "  validate [PATH]",
  "  list-rules"]

def ofRefusal : Refusal → Reply
  | .usage => ⟨fatal, "", unlines usage⟩
  | .help => ⟨ok, unlines usage, ""⟩
  | .version => ⟨ok, unlines [s!"{programName} {programVersion}"], ""⟩

def ofInvocation [Explanations] (d : Disk) (dir : HostPath) (i : Invocation) : Reply :=
  let config := i.config.map (absolute dir)
  match i.command with
  | .check path format failOn => check d (absolute dir path) config format failOn i.verbose
  | .validate path => validate d (absolute dir path) config
  | .listRules => ⟨ok, unlines RuleListing.lines, ""⟩

/-- Runs the program in a directory. `preset` is the configuration that the environment names. -/
def ofArguments [Explanations] (d : Disk) (dir : HostPath) (args : List String)
    (preset : Option String) : Reply :=
  match Arguments.read args preset with
  | .ok i => ofInvocation d dir i
  | .error refusal => ofRefusal refusal

end Reply
end TreeLint
