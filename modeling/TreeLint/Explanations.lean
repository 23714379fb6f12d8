import TreeLint.Config.Document

/-!
What others say in errors. Expressions are compiled, documents are read and files are opened by
others, and what these say of a refusal is handed on as it is. Nothing is known of these texts: they
may be empty, and they may be of several lines.
-/
namespace TreeLint

/-- What is said in one run of an expression that does not compile, of a text that is no document,
and of a file that is there and cannot be read. -/
class Explanations where
  expression (text : String) : String
  document (format : DocumentFormat) (text : String) : String
  file (path : HostPath) : String

/-- Explanations that do not say where the fault lies. -/
@[reducible] def Explanations.brief : Explanations where
  expression _ := "not a regular expression"
  document
    | .toml, _ => "not a configuration in TOML"
    | .json, _ => "not a configuration in JSON"
  file _ := "not a text that can be read"

end TreeLint
