import AggregateRouting.FieldType

/-! # Records, their types and their properties

A record type has a name, which it may share with others, and an identity, which it does not. Its
properties are found by name; a property reads a routing value from the records of the type that
owns it and nothing from any other record. -/

namespace AggregateRouting

structure TypeId where
  number : Nat
  deriving DecidableEq

/-- A value of a record type: an entity, a command or the payload of an event. -/
structure Record where
  type : TypeId
  fields : List (String × FieldValue)

/-- The routing value of a field; a field that the record lacks is absent. -/
def Record.read (r : Record) (field : String) : RoutingValue :=
  match r.fields.lookup field with
  | some f => f.routingValue
  | none => .absent

structure Property where
  name : String
  owner : String
  ownerId : TypeId
  read : Record → RoutingValue

namespace Property

/-- What the property reads from a record, if the record has the type that owns it. -/
def value? (p : Property) (r : Record) : Option RoutingValue :=
  if r.type = p.ownerId then some (p.read r) else none

def outline (p : Property) : String :=
  Outline.record "Property" [("name", Quoted.ofText p.name), ("owner", Quoted.ofText p.owner)]

variable {p : Property} {r : Record}

theorem value?_eq_some_iff {v : RoutingValue} :
    p.value? r = some v ↔ r.type = p.ownerId ∧ p.read r = v := by
  simp [value?]

theorem value?_eq_none_iff : p.value? r = none ↔ r.type ≠ p.ownerId := by
  simp [value?]

end Property

/-- A record type, with the names of its properties and the look-up of a property by name. -/
structure RecordType where
  id : TypeId
  name : String
  propertyNames : List String
  property? : String → Option Property

namespace RecordType

def Instance (t : RecordType) : Type :=
  { r : Record // r.type = t.id }

def same (t t' : RecordType) : Bool :=
  t.id == t'.id

def OwnsProperties (t : RecordType) : Prop :=
  ∀ name p, t.property? name = some p → p.ownerId = t.id

end RecordType
end AggregateRouting
