import AggregateRouting.Message
import AggregateRouting.Strategy

/-! # Event forwarding

To which children of a member an event passes: to none, to all, to those with the routing value that
a hook derives from the event, or to those that a filter picks. -/

namespace AggregateRouting

inductive ForwardingMode
  | none
  | all
  | routingKey
  | custom
  deriving DecidableEq

namespace ForwardingMode

def modes : List ForwardingMode :=
  [none, all, routingKey, custom]

def default : ForwardingMode :=
  all

def name : ForwardingMode → String
  | none => "NONE"
  | all => "ALL"
  | routingKey => "ROUTING_KEY"
  | custom => "CUSTOM"

def ofName? (s : String) : Option ForwardingMode :=
  modes.find? (·.name == s)

def outline : ForwardingMode → String
  | none => "None"
  | all => "All"
  | routingKey => "RoutingKey"
  | custom => "Custom"

/-- The mode that counts: the declared one, but none where events are not forwarded. -/
def effective (forwardsEvents : Bool) (declared : ForwardingMode) : ForwardingMode :=
  if forwardsEvents then declared else none

theorem ofName?_eq_some_iff {s : String} {m : ForwardingMode} :
    ofName? s = some m ↔ m.name = s := by
  constructor
  · intro h
    simpa using List.find?_some h
  · rintro rfl
    cases m <;> decide

end ForwardingMode

abbrev EventHook := Event → String → List Strategy → Option RoutingValue

/-- Reads the property of the event's payload that the chain finds under the key. -/
def EventHook.payload : EventHook :=
  fun e key chain => (findProperty chain e.payloadType key).bind (·.value? e.payload.val)

abbrev EventFilter := Event → List Record → List Record

end AggregateRouting
