import AggregateRouting.Inspection
import AggregateRouting.Shop.Forwarding
import AggregateRouting.Shop.Order

/-! # A setup of the shop

Models of shipments, lines and wide records, members of orders through which messages pass to them,
the relations that an inspection makes of these, and an order to route in. -/

namespace AggregateRouting.Shop

def carrier? : (t : FieldType) → RoutingValue → Option t.Carrier
  | .int t, .int i => t.ofInt? i
  | .bool, .bool b => some b
  | .text, .text s => some s
  | .value, v => some v
  | .optional _, .absent => some none
  | .optional content, v => (carrier? content v).map some
  | .held _ content, v => carrier? content v
  | _, _ => none

namespace Definition

/-- A record with the given routing values; any other field has its default value. -/
def recordOf (d : Definition) (values : List (String × RoutingValue)) : d.type.Instance :=
  d.record fun field t => (values.lookup field).bind (carrier? t)

def commandOf (d : Definition) (values : List (String × RoutingValue)) : Command :=
  { name := d.command.getD "", payloadType := d.type, payload := d.recordOf values }

def eventOf (d : Definition) (name : String) (values : List (String × RoutingValue)) : Event :=
  { name := name, payloadType := d.type, payload := d.recordOf values }

end Definition

def shipmentModel : EntityModel where
  entity := shipment.type
  routingKey := "shipmentId"
  handlers := [{ command := "shipment.assign_carrier", payloadType := assignCarrier.type }]

def lineModel : EntityModel where
  entity := line.type
  routingKey := "line_id"
  handlers :=
    [{ command := "line.change_qty", payloadType := changeLineQty.type },
      { command := "line.remove", payloadType := removeLine.type, routingKey := some "lineNo" },
      { command := "line.split", payloadType := splitLine.type }]

def wideModel : EntityModel where
  entity := wide.type
  routingKey := "opt_text"
  handlers :=
    [{ command := "line.split", payloadType := splitLine.type, routingKey := some "line_id" }]

def registry : Registry where
  models := [shipmentModel, lineModel, wideModel]
  distinct := by decide +kernel

def config : Config where
  registry := registry

/-- A shipment, lines that are told of events by key, wide records likewise, and lines that are told
of events from the last to the first. -/
def routedMembers : List (Member Order) :=
  [{ Order.single "shipment" shipment (·.shipment) with metadata := some {} },
    { Order.sequence "lines" line (·.lines) with metadata := some { mode := .routingKey } },
    { Order.sequence "wides" wide (·.wides) with metadata := some { mode := .routingKey } },
    Order.value "note" "str",
    { Order.keyed "ring" "shop::Ring" line (·.lines) with
      metadata := some { mode := .custom, filter := some EventFilter.reverse } }]

def relations : List (Relation Order) :=
  (config.inspect orderModel routedMembers).value.toOption.getD []

theorem isOk_inspect : (config.inspect orderModel routedMembers).value.isOk = true := by
  decide +kernel

theorem inspect_eq : (config.inspect orderModel routedMembers).value = .ok relations := by
  have h := isOk_inspect
  unfold relations
  cases hr : (config.inspect orderModel routedMembers).value with
  | error e =>
    rw [hr] at h
    cases h
  | ok rs => rfl

/-- An order with two lines and two wide records, the second of which lacks its text. -/
def stocked : Order where
  lines :=
    [line.recordOf [("tag", .text "l1"), ("line_id", .int 1)],
      line.recordOf [("tag", .text "l2"), ("line_id", .int 2)]]
  wides :=
    [wide.recordOf [("tag", .text "w1"), ("opt_text", .text "x")],
      wide.recordOf [("tag", .text "w2")]]

end AggregateRouting.Shop
