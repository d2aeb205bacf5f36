import AggregateRouting.ConfigError
import AggregateRouting.EntityModel
import AggregateRouting.Member

/-! # Routing keys of commands

For each command that a child entity handles, the property of its payload that tells which child it
is for. -/

namespace AggregateRouting

/-- The routing property of each command, in the order of the handlers. -/
abbrev RoutingKeys := List (String × Property)

namespace RoutingKeys

def property? (keys : RoutingKeys) (command : String) : Option Property :=
  keys.lookup command

def propertyOf (chain : List Strategy) (member : MemberId) (model : EntityModel) (h : Handler) :
    Except ConfigError Property :=
  match findProperty chain h.payloadType (model.keyOf h) with
  | some p => .ok p
  | none => .error (.missingRoutingProperty h.payloadType.name (model.keyOf h) member.text)

/-- The routing keys `keys` with those of further handlers, none of which may have a command that
has a key already. -/
def extend (chain : List Strategy) (member : MemberId) (model : EntityModel) (keys : RoutingKeys) :
    List Handler → Except ConfigError RoutingKeys
  | [] => .ok keys
  | h :: hs => do
    let p ← propertyOf chain member model h
    if (keys.property? h.command).isSome then
      .error (.duplicateHandler h.command model.entity.name)
    else extend chain member model (keys ++ [(h.command, p)]) hs

def ofModel (chain : List Strategy) (member : MemberId) (model : EntityModel) :
    Except ConfigError RoutingKeys :=
  extend chain member model [] model.handlers

end RoutingKeys
end AggregateRouting
