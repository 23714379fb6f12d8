import TreeLint.Unicode.Quoted
import TreeLint.Value

/-!
Reading typed records out of values. The members of an object are looked at in order, and the first
one that is wrong decides the error; members that are missing are told last.
-/
namespace TreeLint

/-- Why a value is not what was asked for. -/
inductive DecodeError
  | missingField (name : String)
  | unknownField (name : String) (known : List String)
  | duplicateField (name : String)
  | wrongType (found : Value) (expected : String)
  | wrongValue (found : Value) (expected : String)
  | wrongLength (length : Nat) (expected : String)
  | unknownVariant (name : String) (known : List String)

namespace DecodeError

/-- A value as it is called in a message. -/
def describe : Value → String
  | .null => "null"
  | .bool b => s!"boolean `{b}`"
  | .int n => s!"integer `{n}`"
  | .float x => s!"floating point `{x.plain}`"
  | .notFinite name => s!"floating point `{name}`"
  | .string s => "string " ++ Unicode.quoted s
  | .array _ => "sequence"
  | .object _ => "map"

def choices (names : List String) : String :=
  let marked := names.map fun n => s!"`{n}`"
  match marked with
  | [a] => a
  | [a, b] => a ++ " or " ++ b
  | _ => "one of " ++ ", ".intercalate marked

def message : DecodeError → String
  | .missingField name => s!"missing field `{name}`"
  | .unknownField name known => s!"unknown field `{name}`, expected {choices known}"
  | .duplicateField name => s!"duplicate field `{name}`"
  | .wrongType found expected => s!"invalid type: {describe found}, expected {expected}"
  | .wrongValue found expected => s!"invalid value: {describe found}, expected {expected}"
  | .wrongLength length expected => s!"invalid length {length}, expected {expected}"
  | .unknownVariant name known => s!"unknown variant `{name}`, expected {choices known}"

end DecodeError

/-- A way to read an `α` out of a value. -/
abbrev Decode (α : Type) := Value → Except DecodeError α

namespace Decode

variable {α β : Type}

def text : Decode String
  | .string s => .ok s
  | v => .error (.wrongType v "a string")

def bool : Decode Bool
  | .bool b => .ok b
  | v => .error (.wrongType v "a boolean")

/-- A whole number below `limit`, by the name of its type. -/
def natBelow (limit : Nat) (typeName : String) : Decode Nat
  | .int n => if 0 ≤ n ∧ n < limit then .ok n.toNat else .error (.wrongValue (.int n) typeName)
  | v => .error (.wrongType v typeName)

def list (item : Decode α) : Decode (List α)
  | .array items => items.mapM item
  | v => .error (.wrongType v "a sequence")

/-- Null stands for nothing. A number that is not finite stands for itself. -/
def option (inner : Decode α) : Decode (Option α)
  | .null => .ok none
  | v => some <$> inner v

/-- The members of an object as plain values, whatever they are. -/
def members : Decode (List (String × Value))
  | .object ms => .ok (Value.plainMembers ms)
  | v => .error (.wrongType v "a map")

end Decode

/-- A member of a record: its name, other names for it, whether it has to be there, and what is
asked of it. -/
structure Field where
  name : String
  aliases : List String
  isRequired : Bool
  check : Value → Except DecodeError Unit

def Field.names (f : Field) : List String := f.name :: f.aliases

/-- How to read an `α` out of the members of an object. -/
structure Record (α : Type) where
  fields : List Field
  build : List (String × Value) → Except DecodeError α

namespace Record

variable {α β : Type}

/-- A member that has to be there. -/
def required (name : String) (d : Decode α) : Record α where
  fields := [⟨name, [], true, fun v => (fun _ => ()) <$> d v⟩]
  build ms :=
    match Ascending.find? name ms with
    | some v => d v
    | none => .error (.missingField name)

/-- A member that may be missing, under one of several names. -/
def optionalAs (name : String) (aliases : List String) (fallback : α) (d : Decode α) :
    Record α where
  fields := [⟨name, aliases, false, fun v => (fun _ => ()) <$> d v⟩]
  build ms :=
    match ms.find? fun m => (name :: aliases).contains m.1 with
    | some (_, v) => d v
    | none => .ok fallback

def optional (name : String) (fallback : α) (d : Decode α) : Record α :=
  optionalAs name [] fallback d

def map (f : α → β) (r : Record α) : Record β := ⟨r.fields, fun ms => f <$> r.build ms⟩

/-- Reads the members of `r` and then those of `s`. -/
def app (r : Record (α → β)) (s : Record α) : Record β where
  fields := r.fields ++ s.fields
  build ms := do
    let f ← r.build ms
    let a ← s.build ms
    return f a

instance : Functor Record := ⟨map, fun a r => map (fun _ => a) r⟩

instance : Seq Record := ⟨fun r s => app r (s ())⟩

def field? (r : Record α) (key : String) : Option Field := r.fields.find? (·.names.contains key)

/-- Looks at the members of an object. A closed record has no members besides its own. -/
def check (r : Record α) (closed : Bool) (seen : List String) :
    List (String × Value) → Except DecodeError Unit
  | [] => .ok ()
  | (key, v) :: rest =>
    match r.field? key with
    | some f => do
      if seen.contains f.name then throw (.duplicateField f.name)
      f.check v
      check r closed (f.name :: seen) rest
    | none =>
      if closed then .error (.unknownField key (r.fields.flatMap Field.names))
      else check r closed seen rest

/-- Pairs the items of a list with the members of a record, in the order of the members. -/
def positional (whole : String) (i : Nat) :
    List Field → List Value → Except DecodeError (List (String × Value))
  | [], _ => .ok []
  | f :: fields, [] =>
    if f.isRequired then .error (.wrongLength i whole) else positional whole (i + 1) fields []
  | f :: fields, v :: rest => do
    f.check v
    return (f.name, v) :: (← positional whole (i + 1) fields rest)

def elements (n : Nat) : String := if n = 1 then "1 element" else s!"{n} elements"

/-- Reads a record from an object, or from a list of its members in order. -/
def decode (r : Record α) (name : String) (closed : Bool) : Decode α
  | .object ms => do
    r.check closed [] ms
    r.build ms
  | .array items => do
    let whole := s!"struct {name} with {elements r.fields.length}"
    let ms ← positional whole 0 r.fields items
    if r.fields.length < items.length then
      throw (.wrongLength items.length "fewer elements in array")
    r.build ms
  | v => .error (.wrongType v s!"struct {name}")

/-- Reads a record from an object, with the members that are not its own. -/
def decodeOpen (r : Record α) (name : String) : Decode (α × List (String × Value))
  | .object ms => do
    r.check false [] ms
    let a ← r.build ms
    return (a, ms.filter fun m => (r.field? m.1).isNone)
  | v => .error (.wrongType v s!"struct {name}")

end Record
end TreeLint
