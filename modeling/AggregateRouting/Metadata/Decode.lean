import AggregateRouting.Json
import AggregateRouting.Metadata

/-! # Metadata from JSON

Metadata is an object with some of four fields, or an array that gives them in order. The entries
of an object are read in ascending order of their keys, and the first fault is reported; a field
that is not given has its default value. -/

namespace AggregateRouting

inductive Expectation
  | flag
  | text
  | mode
  | nothing
  | metadata
  deriving DecidableEq

def Expectation.wording : Expectation → String
  | flag => "a boolean"
  | text => "a string"
  | mode => "string or map"
  | nothing => "unit"
  | metadata => "struct MemberMetadata"

/-- A fault of a JSON value that should be metadata or a forwarding mode. -/
inductive DecodeError
  | invalidType (found : Json) (expected : Expectation)
  | unknownMode (name : String)
  | notOneEntry
  | unknownField (name : String)
  | tooManyElements (count : Nat)

namespace Metadata

/-- The fields of metadata that JSON can give, in the order in which an array gives them. -/
inductive Field
  | forwardCommands
  | forwardEvents
  | eventForwardingMode
  | eventRoutingKey
  deriving DecidableEq

namespace Field

def all : List Field :=
  [forwardCommands, forwardEvents, eventForwardingMode, eventRoutingKey]

def name : Field → String
  | forwardCommands => "forwardCommands"
  | forwardEvents => "forwardEvents"
  | eventForwardingMode => "eventForwardingMode"
  | eventRoutingKey => "eventRoutingKey"

def ofName? (s : String) : Option Field :=
  all.find? (·.name == s)

end Field
end Metadata

private def oneOf (names : List String) : String :=
  "expected one of " ++ ", ".intercalate (names.map fun name => "`" ++ name ++ "`")

def DecodeError.message : DecodeError → String
  | invalidType found expected =>
    "invalid type: " ++ found.kind ++ ", expected " ++ expected.wording
  | unknownMode name =>
    "unknown variant `" ++ name ++ "`, " ++ oneOf (ForwardingMode.modes.map (·.name))
  | notOneEntry => "invalid value: map, expected map with a single key"
  | unknownField name =>
    "unknown field `" ++ name ++ "`, " ++ oneOf (Metadata.Field.all.map (·.name))
  | tooManyElements count =>
    "invalid length " ++ toString count ++ ", expected fewer elements in array"

def ForwardingMode.decodeName (name : String) : Except DecodeError ForwardingMode :=
  match ofName? name with
  | some m => .ok m
  | .none => .error (.unknownMode name)

/-- A mode is given by its name, or by an object with the name as its one key and null under it. -/
def ForwardingMode.ofJson : Json → Except DecodeError ForwardingMode
  | .str name => decodeName name
  | .object [(name, content)] => do
    let m ← decodeName name
    match content with
    | .null => .ok m
    | other => .error (.invalidType other .nothing)
  | .object _ => .error .notOneEntry
  | other => .error (.invalidType other .mode)

namespace Metadata

private def flagOfJson : Json → Except DecodeError Bool
  | .bool b => .ok b
  | other => .error (.invalidType other .flag)

private def optionalTextOfJson : Json → Except DecodeError (Option String)
  | .null => .ok none
  | .str s => .ok (some s)
  | other => .error (.invalidType other .text)

def set (m : Metadata) (field : Field) (j : Json) : Except DecodeError Metadata :=
  match field with
  | .forwardCommands => return { m with forwardsCommands := ← flagOfJson j }
  | .forwardEvents => return { m with forwardsEvents := ← flagOfJson j }
  | .eventForwardingMode => return { m with mode := ← ForwardingMode.ofJson j }
  | .eventRoutingKey => return { m with eventRoutingKey := ← optionalTextOfJson j }

def setNamed (m : Metadata) (entry : String × Json) : Except DecodeError Metadata :=
  match Field.ofName? entry.1 with
  | some field => m.set field entry.2
  | none => .error (.unknownField entry.1)

def ofEntries (entries : List (String × Json)) : Except DecodeError Metadata :=
  (Json.sortByKey entries).foldlM setNamed {}

def ofElements (items : List Json) : Except DecodeError Metadata := do
  let m ← (Field.all.zip items).foldlM (fun m (field, j) => m.set field j) {}
  if Field.all.length < items.length then .error (.tooManyElements items.length) else .ok m

def ofJson : Json → Except DecodeError Metadata
  | .object entries => ofEntries entries
  | .array items => ofElements items
  | other => .error (.invalidType other .metadata)

def dropEmptyKey (m : Metadata) : Metadata :=
  if m.eventRoutingKey = some "" then { m with eventRoutingKey := none } else m

/-- Metadata from the attributes of a member, where an empty routing key for events means none. -/
def ofAttributes (entries : List (String × Json)) : Except DecodeError Metadata :=
  (ofEntries entries).map dropEmptyKey

end Metadata
end AggregateRouting
