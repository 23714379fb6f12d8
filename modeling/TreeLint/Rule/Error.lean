import TreeLint.Pattern
import TreeLint.Severity
import TreeLint.Template
import TreeLint.Value.Decode

/-!
Why a rule cannot be compiled.
-/
namespace TreeLint

/-- What is wrong with the options of a rule. -/
inductive OptionFault
  | decode (error : DecodeError)
  | blankLayerName
  | barrel (name : String)
  | requiredEntry (entry : String)

def OptionFault.message : OptionFault → String
  | .decode e => e.message
  | .blankLayerName => "layer name must not be empty"
  | .barrel name => s!"`barrel` must be a file name, got `{name}`"
  | .requiredEntry entry =>
    s!"required entry `{entry}` must be a relative path inside the directory"

/-- What a rule lacks without which it would never find anything. -/
inductive Lack
  | layers
  | templates
  | denials
  | expressions
  | entries
  | segments (field : String)
deriving DecidableEq, Repr

def Lack.message : Lack → String
  | .layers => "at least one layer must be declared"
  | .templates => "one of `requires` or `forbids` must be set"
  | .denials => "one of `deny` or `deny_paths` must be set"
  | .expressions => "one of `must_match` or `must_not_match` must be set"
  | .entries => "`required` must list at least one entry"
  | .segments field => s!"`{field}` must not be empty"

/-- Of an expression that does not compile `detail` is what its compiler says. -/
inductive RuleError
  | missingId
  | missingKind (id : String)
  | invalidSeverity (id text : String)
  | invalidOptions (id kind : String) (fault : OptionFault)
  | invalidPattern (id field : String) (error : PatternError)
  | invalidRegex (id field detail : String)
  | duplicateLayer (id layer : String)
  | unknownLayer (id layer reference : String)
  | invalidTemplate (id template : String) (error : TemplateError)
  | emptyConstraint (id : String) (lack : Lack)

namespace RuleError

def message : RuleError → String
  | .missingId => "rule is missing required field `id`"
  | .missingKind id => s!"rule `{id}` is missing required field `kind`"
  | .invalidSeverity id text => s!"rule `{id}`: {Severity.unknownMessage text}"
  | .invalidOptions id kind fault => s!"rule `{id}` ({kind}): {fault.message}"
  | .invalidPattern id field error => s!"rule `{id}`: invalid pattern in `{field}`: {error.message}"
  | .invalidRegex id field detail => s!"rule `{id}`: invalid regex in `{field}`: {detail}"
  | .duplicateLayer id layer => s!"rule `{id}`: layer `{layer}` is declared more than once"
  | .unknownLayer id layer reference =>
    s!"rule `{id}`: layer `{layer}` allows unknown layer `{reference}`"
  | .invalidTemplate id template error =>
    s!"rule `{id}`: invalid template `{template}`: {error.message}"
  | .emptyConstraint id lack => s!"rule `{id}`: {lack.message}"

end RuleError
end TreeLint
