import AggregateRouting.Declaration.Expansion
import AggregateRouting.Record

/-! # Record types from declarations

The record type that an expanded structure is. Its properties belong to the type for which the facet
is written, and which type that is depends on what its parameters stand for. -/

namespace AggregateRouting
namespace PropertyTable

def property (id : TypeId) (owner name field : String) : Property where
  name := name
  owner := owner
  ownerId := id
  read := (·.read field)

def recordType (t : PropertyTable) (id : TypeId) (name : String) : RecordType where
  id := id
  name := name
  propertyNames := t.names
  property? := fun n => (t.fieldOf? n).map (property id name n)

variable {t : PropertyTable} {id : TypeId} {name : String}

theorem property?_recordType {n : String} {p : Property} :
    (t.recordType id name).property? n = some p
      ↔ ∃ field, t.fieldOf? n = some field ∧ property id name n field = p := by
  simp [recordType]

theorem value?_property {n field : String} {r : Record} {v : FieldValue} (h : r.type = id)
    (hv : r.fields.lookup field = some v) :
    (property id name n field).value? r = some v.routingValue := by
  rw [Property.value?_eq_some_iff]
  exact ⟨h, by simp [property, Record.read, hv]⟩

theorem ownsProperties_recordType : (t.recordType id name).OwnsProperties := by
  intro n p h
  obtain ⟨field, -, rfl⟩ := property?_recordType.1 h
  rfl

end PropertyTable

/-- What a type is known by: its identity, and its name. -/
structure TypeRef where
  id : TypeId
  name : String
  deriving DecidableEq

/-- The record type of an expansion, where `meaning` gives the type that a written one stands
for. -/
def Expansion.recordType {τ : Type} (x : Expansion τ) (meaning : List Source.Token → TypeRef) :
    RecordType :=
  let self := meaning x.access.target
  x.table.recordType self.id self.name

end AggregateRouting
