import TreeLint.HostPath
import TreeLint.Json.Read
import TreeLint.Toml.Read
import TreeLint.Value.Decode

/-!
Configuration documents. What a document leaves out stays as other documents have it, so each field
tells what is missing from what is empty. The options of a rule are kept as plain values here.
-/
namespace TreeLint

/-- One rule as written. Members without a meaning of their own are its options. -/
structure RuleDocument where
  id : String := ""
  kind : String := ""
  severity : Option String := none
  exclude : List String := []
  disabled : Bool := false
  message : Option String := none
  options : List (String × Value) := []
deriving Repr, Inhabited

namespace RuleDocument

/-- The rule with its options still to come. -/
def record : Record (List (String × Value) → RuleDocument) :=
  RuleDocument.mk <$> .optional "id" "" Decode.text
    <*> .optional "kind" "" Decode.text
    <*> .optional "severity" none (.option Decode.text)
    <*> .optional "exclude" [] (.list Decode.text)
    <*> .optional "disabled" false Decode.bool
    <*> .optional "message" none (.option Decode.text)

def decode : Decode RuleDocument := fun v => do
  let (rule, rest) ← record.decodeOpen "RuleDocument" v
  return rule (Value.plainMembers rest)

/-- The members that a rule is written with; what has its usual value is left out. -/
def members (r : RuleDocument) : List (String × Value) :=
  [("id", .string r.id)] ++
    (if r.kind = "" then [] else [("kind", .string r.kind)]) ++
    r.severity.toList.map (("severity", Value.string ·)) ++
    (if r.exclude = [] then [] else [("exclude", .strings r.exclude)]) ++
    (if r.disabled then [("disabled", .bool true)] else []) ++
    r.message.toList.map (("message", Value.string ·)) ++ r.options

def toValue (r : RuleDocument) : Value := .ofMembers r.members

end RuleDocument

/-- A configuration or a preset. `bases` are the presets that it extends. -/
structure Document where
  name : Option String := none
  description : Option String := none
  version : Option Nat := none
  bases : List String := []
  rules : Option (List RuleDocument) := none
  included : Option (List String) := none
  excluded : Option (List String) := none
  tools : Option (List (String × Value)) := none
  integrations : Option (List (String × Value)) := none
deriving Repr, Inhabited

inductive DocumentFormat
  | toml
  | json
deriving DecidableEq, Repr

/-- The ending `.json` stands for JSON in any case, all else for TOML. -/
def DocumentFormat.ofPath (p : HostPath) : DocumentFormat :=
  match p.extension? with
  | some ext => if ext.toList.map Char.toLower = ['j', 's', 'o', 'n'] then .json else .toml
  | none => .toml

namespace Document

def maxVersion : Nat := Nat.pow 2 32

def rulesRecord : Record (List RuleDocument) :=
  id <$> .optional "custom" [] (.list RuleDocument.decode)

def record : Record Document :=
  Document.mk <$> .optional "name" none (.option Decode.text)
    <*> .optional "description" none (.option Decode.text)
    <*> .optional "version" none (.option (.natBelow maxVersion "u32"))
    <*> .optional "extends" [] (.list Decode.text)
    <*> .optional "rules" none (.option (rulesRecord.decode "RulesSection" false))
    <*> .optional "include" none (.option (.list Decode.text))
    <*> .optional "exclude" none (.option (.list Decode.text))
    <*> .optional "tools" none (.option Decode.members)
    <*> .optional "integrations" none (.option Decode.members)

def decode : Decode Document := record.decode "ConfigDocument" false

/-- The parts of a JSON text that a document is read from. -/
def shape : Json.Shape :=
  let rule : Json.Shape := .record (RuleDocument.record.fields.map fun f => (f.name, .all)) true
  .record (record.fields.map fun f =>
    (f.name, if f.name = "rules" then .record [("custom", .list rule)] false else .all)) false

/-- The members of a document whose section of rules, when it is given as a list, has no more items
than there are members to give. -/
def withoutSurplus : Value → Value
  | .object ms =>
    .object (ms.map fun
      | ("rules", .array items) => ("rules", .array (items.take rulesRecord.fields.length))
      | m => m)
  | v => v

/-- Reads the text of a document. Surplus items of a list are wrong in JSON and say nothing in
TOML. -/
def parse? (format : DocumentFormat) (text : String) : Option Document := do
  let v ← match format with
    | .toml => withoutSurplus <$> Toml.read? text
    | .json => Json.read? shape text
  (decode v).toOption

/-- The members that a document is written with; what is missing or extends nothing is left out. -/
def members (d : Document) : List (String × Value) :=
  d.name.toList.map (("name", Value.string ·)) ++
    d.description.toList.map (("description", Value.string ·)) ++
    d.version.toList.map (fun (n : Nat) => ("version", Value.int n)) ++
    (if d.bases = [] then [] else [("extends", .strings d.bases)]) ++
    d.rules.toList.map (fun rs =>
      ("rules", Value.object [("custom", .array (rs.map RuleDocument.toValue))])) ++
    d.included.toList.map (("include", Value.strings ·)) ++
    d.excluded.toList.map (("exclude", Value.strings ·)) ++
    d.tools.toList.map (("tools", Value.object ·)) ++
    d.integrations.toList.map (("integrations", Value.object ·))

def toValue (d : Document) : Value := .ofMembers d.members

/-- The rules of a document, in the order of writing. -/
def customRules (d : Document) : List RuleDocument := d.rules.getD []

end Document
end TreeLint
