import TreeLint.Check.Catalogue
import TreeLint.Config.Preset
import TreeLint.Run.Outcome

/-!
What the program writes: reports in three forms, and the list of what rules there are.
-/
namespace TreeLint

namespace Color

/-- Text in a colour of the terminal. -/
def paint (code text : String) : String := s!"\x1b[{code}m{text}\x1b[0m"

def red : String := "31"

def green : String := "32"

def yellow : String := "33"

def blue : String := "34"

def ofSeverity : Severity → String
  | .error => red
  | .warning => yellow
  | .info => blue

end Color

namespace Report

/-- The colour of the gravest findings, among errors and warnings. -/
def color (r : Report) : String :=
  if r.count .error > 0 then Color.red
  else if r.count .warning > 0 then Color.yellow
  else Color.green

def summary (r : Report) : String :=
  s!"Found {r.count .error} error(s), {r.count .warning} warning(s), {r.count .info} info(s) in " ++
    s!"{r.filesAffected} file(s) from {r.rulesRun} rule(s)"

/-- One finding, over several lines. -/
def renderViolation (v : Violation) : String :=
  s!"{v.code} {v.ruleId} at {v.location.display}\n" ++
    s!"  {Color.paint (Color.ofSeverity v.severity) v.severity.name}: {v.message}\n" ++
    String.join (v.context.toList.map fun c => s!"  = note: {c}\n") ++
    String.join (v.suggestion.toList.map fun s => s!"  = help: {s}\n")

/-- All findings with an empty line after each, and a summary. -/
def renderText (r : Report) : String :=
  String.join (r.violations.map fun v => renderViolation v ++ "\n") ++
    Color.paint r.color r.summary ++
    if r.skipped.isEmpty then ""
    else "\nSkipped rule(s) with unsupported kinds: " ++ ", ".intercalate r.skipped

/-- One line for each finding. -/
def renderCompact (r : Report) : String := "\n".intercalate (r.violations.map Violation.display)

end Report

namespace RuleListing

def kindWidth : Nat := 22

def codesWidth : Nat := 30

def referenceWidth : Nat := 28

def ruleWidth : Nat := 90

/-- Fills a text up with blanks to a width. -/
def padTo (width : Nat) (text : String) : String :=
  text ++ String.ofList (List.replicate (width - text.length) ' ')

def row (kind codes description : String) : String :=
  s!"{padTo kindWidth kind} {padTo codesWidth codes} {description}"

def kindRows : List String :=
  (RuleKindInfo.all.map fun k => row k.name (", ".intercalate k.codes) k.description) ++
    [row "(any)" ConfiguredRule.misconfiguredCode "Rule configuration could not be compiled"]

def presetRows : List String :=
  Preset.descriptions.map fun (reference, description) =>
    s!"  {padTo referenceWidth reference} {description}"

/-- The kinds of rules and the built-in presets, line by line. -/
def lines : List String :=
  ["Rule kinds:", "", row "Kind" "Codes" "Description",
      String.ofList (List.replicate ruleWidth '-')] ++
    kindRows ++ ["", "Built-in presets:"] ++ presetRows ++
    ["", "Use a preset from struct-lint.toml, e.g.:",
      "  extends = [\"builtin/clean-architecture\"]"]

end RuleListing
end TreeLint
