import AggregateRouting.Record

/-! # Messages

A command asks one entity to do something; an event tells entities what has happened. Each has a
name and a record as its payload. -/

namespace AggregateRouting

structure Command where
  name : String
  payloadType : RecordType
  payload : payloadType.Instance

def Command.outline (c : Command) : String :=
  Outline.record "CommandMessage"
    [("command_name", Quoted.ofText c.name), ("payload_type", Quoted.ofText c.payloadType.name)]

structure Event where
  name : String
  payloadType : RecordType
  payload : payloadType.Instance

def Event.outline (e : Event) : String :=
  Outline.record "EventMessage"
    [("event_type", Quoted.ofText e.name), ("payload_type", Quoted.ofText e.payloadType.name)]

end AggregateRouting
