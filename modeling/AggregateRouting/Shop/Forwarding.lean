import AggregateRouting.Forwarding
import AggregateRouting.Shop.Catalog

/-! # Event filters and hooks of the shop

Filters that pick children in ways of their own, and hooks that derive routing values from something
other than the payload. -/

namespace AggregateRouting.Shop

namespace EventFilter

def reverse : EventFilter :=
  fun _ children => children.reverse

def take (n : Nat) : EventFilter :=
  fun _ children => children.take n

def duplicate : EventFilter :=
  fun _ children => children.flatMap fun child => [child, child]

def forEvent (name : String) : EventFilter :=
  fun e children => if e.name = name then children else []

def minWeight (weight : Int) : EventFilter :=
  fun _ children => children.filter fun child =>
    child.type == parcel.type.id &&
      match child.read "weight" with
      | .int w => decide (weight ≤ w)
      | _ => false

end EventFilter

namespace EventHook

def absent : EventHook :=
  fun _ _ _ => none

def key : EventHook :=
  fun _ key _ => some (.text key)

def eventName : EventHook :=
  fun e _ _ => some (.text e.name)

def constant (v : RoutingValue) : EventHook :=
  fun _ _ _ => some v

end EventHook

end AggregateRouting.Shop
