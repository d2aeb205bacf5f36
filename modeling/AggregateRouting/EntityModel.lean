import AggregateRouting.Record

/-! # Entity models

What an entity type does with commands: which it handles, with payloads of which type, and the
routing key by which a command or an event finds one of its entities. -/

namespace AggregateRouting

/-- A command that an entity handles. Its payload is routed by a key of its own or else by that of
the entity. -/
structure Handler where
  command : String
  payloadType : RecordType
  routingKey : Option String := none

structure EntityModel where
  entity : RecordType
  routingKey : String
  handlers : List Handler := []

namespace EntityModel

def handler? (m : EntityModel) (command : String) : Option Handler :=
  m.handlers.find? (·.command == command)

def handles (m : EntityModel) (command : String) : Bool :=
  (m.handler? command).isSome

def keyOf (m : EntityModel) (h : Handler) : String :=
  h.routingKey.getD m.routingKey

theorem handles_iff {m : EntityModel} {command : String} :
    m.handles command = true ↔ command ∈ m.handlers.map (·.command) := by
  simp [handles, handler?]

end EntityModel
end AggregateRouting
