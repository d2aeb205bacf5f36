import AggregateRouting.Forwarding

/-! # Member metadata

The declaration that a member holds child entities, with the messages that pass to them. -/

namespace AggregateRouting

structure Metadata where
  forwardsCommands : Bool := true
  forwardsEvents : Bool := true
  mode : ForwardingMode := .default
  eventRoutingKey : Option String := none
  filter : Option EventFilter := none

namespace Metadata

def effectiveMode (m : Metadata) : ForwardingMode :=
  .effective m.forwardsEvents m.mode

def outline (m : Metadata) : String :=
  Outline.record "MemberMetadata"
    [("forward_commands", Outline.flag m.forwardsCommands),
      ("forward_events", Outline.flag m.forwardsEvents),
      ("event_forwarding_mode", m.mode.outline),
      ("event_routing_key", Outline.optionalText m.eventRoutingKey),
      ("forwarding_filter", Outline.flag m.filter.isSome)]

end Metadata
end AggregateRouting
