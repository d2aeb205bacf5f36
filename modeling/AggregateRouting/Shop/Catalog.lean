import AggregateRouting.Declaration.Expansion
import AggregateRouting.Declaration.RecordType
import AggregateRouting.Text.Quoted

/-! # The catalogue of a shop

The entities, commands and events of a small shop. Each record type comes from the declaration of a
structure. All but one have a tag by which a record can be told apart, which is no property. -/

namespace AggregateRouting.Shop

/-- A record type of the shop with its short name, its fields, and its name as a command if it is
one. -/
structure Definition where
  short : String
  type : RecordType
  fields : List (String × FieldType)
  command : Option String := none

namespace Definition

def fieldsOf (s : Struct FieldType) : List (String × FieldType) :=
  match s.fields with
  | .named fields => fields.map fun f => (f.name, f.type)
  | .unit | .tuple _ => []

def ofExpansion (number : Nat) (short name : String) (e : Expansion FieldType) : Definition where
  short := short
  type := e.recordType fun _ => ⟨⟨number⟩, name⟩
  fields := fieldsOf e.struct
  command := e.command

def ofRecord (number : Nat) (short name : String) (s : Struct FieldType)
    (ok : (Item.expandProperties [] (.ok (.struct s))).toOption.isSome = true := by
      decide +kernel) :
    Definition :=
  ofExpansion number short name ((Item.expandProperties [] (.ok (.struct s))).toOption.get ok)

def ofCommand (number : Nat) (short name : String) (arguments : List Source.Token)
    (s : Struct FieldType)
    (ok : (Item.expandCommand arguments (.ok (.struct s))).toOption.isSome = true := by
      decide +kernel) :
    Definition :=
  ofExpansion number short name
    ((Item.expandCommand arguments (.ok (.struct s))).toOption.get ok)

end Definition

def assigned (word text : String) : List Source.Token :=
  [.word word, .mark '=', .quoted text (Quoted.ofText text)]

def propertyOptions (ts : List Source.Token) : Attribute :=
  { path := "property", argument := .group .round ts }

def field (name : String) (type : FieldType) : Field FieldType :=
  { name := name, type := type }

def renamed (name : String) (type : FieldType) (property : String) : Field FieldType :=
  { name := name, type := type, attributes := [propertyOptions (assigned "rename" property)] }

def tag : Field FieldType :=
  { name := "tag", type := .text, attributes := [propertyOptions [.word "skip"]] }

def tagged (name : String) (fields : List (Field FieldType)) : Struct FieldType :=
  { name := name, fields := .named (fields ++ [tag]) }

def named (name : String) : List Source.Token :=
  assigned "name" name

def order : Definition :=
  .ofRecord 0 "Order" "shop::Order" (tagged "Order" [field "order_id" .text])

def shipment : Definition :=
  .ofRecord 1 "Shipment" "shop::Shipment"
    (tagged "Shipment" [field "shipment_id" .text, field "carrier" .text])

def line : Definition :=
  .ofRecord 2 "Line" "shop::Line"
    (tagged "Line" [field "line_id" (.int .u32), field "qty" (.int .u32)])

def parcel : Definition :=
  .ofRecord 3 "Parcel" "shop::Parcel"
    (tagged "Parcel" [field "parcel_id" .text, field "weight" (.int .u32)])

def wide : Definition :=
  .ofRecord 4 "Wide" "shop::Wide"
    (tagged "Wide"
      [field "i8_id" (.int .s8), field "i16_id" (.int .s16), field "i32_id" (.int .s32),
        field "i64_id" (.int .s64), field "i128_id" (.int .s128), field "isize_id" (.int .sWord),
        field "u8_id" (.int .u8), field "u16_id" (.int .u16), field "u32_id" (.int .u32),
        field "u64_id" (.int .u64), field "usize_id" (.int .uWord), field "flag" .bool,
        field "letter" .char, field "uuid" .uuid, field "text" .text,
        field "boxed" (.held .owned .text), field "shared" (.held .shared .text),
        field "opt_text" (.optional .text), field "opt_int" (.optional (.int .u64)),
        field "opt_opt" (.optional (.optional (.int .s32))), field "raw" .value])

def odd : Definition :=
  .ofRecord 5 "Odd" "shop::Odd"
    (tagged "Odd"
      [renamed "camel" (.int .s64) "lineId", field "line_id" (.int .s64), renamed "blank" .text "",
        renamed "spaced" .text "order id", renamed "unicode" .text "straße_id",
        renamed "upper" .text "UPPER", field "upper_" .text, field "r#type" .text,
        renamed "digit" (.int .u16) "item2_id", renamed "acronym" (.int .u16) "httpcode"])

def marker : Definition :=
  .ofRecord 6 "Marker" "shop::Marker" { name := "Marker", fields := .unit }

def pair (content : FieldType) : Struct FieldType :=
  tagged "Pair" [field "key" content, field "other" content]

def pairU32 : Definition :=
  .ofRecord 7 "PairU32" "shop::Pair<u32>" (pair (.int .u32))

def pairText : Definition :=
  .ofRecord 8 "PairText" "shop::Pair<alloc::string::String>" (pair .text)

/-- A record that lists no property and answers to every name with its tag. -/
def echo : Definition where
  short := "Echo"
  type :=
    { id := ⟨9⟩
      name := "shop::Echo"
      propertyNames := []
      property? := fun n => some (PropertyTable.property ⟨9⟩ "shop::Echo" n "tag") }
  fields := [("tag", .text)]

def assignCarrier : Definition :=
  .ofCommand 10 "AssignCarrier" "shop::AssignCarrier" (named "shipment.assign_carrier")
    (tagged "AssignCarrier" [field "shipment_id" .text, field "carrier" .text])

def changeLineQty : Definition :=
  .ofCommand 11 "ChangeLineQty" "shop::ChangeLineQty" (named "line.change_qty")
    (tagged "ChangeLineQty" [field "line_id" (.int .u64), field "qty" (.int .u32)])

def removeLine : Definition :=
  .ofCommand 12 "RemoveLine" "shop::RemoveLine" (named "line.remove")
    (tagged "RemoveLine" [renamed "line_no" (.int .u32) "lineNo"])

def splitLine : Definition :=
  .ofCommand 13 "SplitLine" "shop::SplitLine" (named "line.split")
    (tagged "SplitLine" [field "line_id" (.optional (.int .u32))])

def reweighParcel : Definition :=
  .ofCommand 14 "ReweighParcel" "shop::ReweighParcel" (named "parcel.reweigh")
    (tagged "ReweighParcel" [field "parcel_id" .text, field "weight" (.int .u32)])

def annotateLine : Definition :=
  .ofCommand 15 "AnnotateLine" "shop::AnnotateLine" []
    (tagged "AnnotateLine" [field "note" .text])

def lineShipped : Definition :=
  .ofRecord 16 "LineShipped" "shop::LineShipped"
    (tagged "LineShipped" [field "line_id" (.int .s16)])

def parcelShipped : Definition :=
  .ofRecord 17 "ParcelShipped" "shop::ParcelShipped"
    (tagged "ParcelShipped" [field "parcel_id" .text])

def parcelLost : Definition :=
  .ofRecord 18 "ParcelLost" "shop::ParcelLost"
    (tagged "ParcelLost" [field "lost_ref" .text])

def orderNoted : Definition :=
  .ofRecord 19 "OrderNoted" "shop::OrderNoted" (tagged "OrderNoted" [field "text" .text])

def definitions : List Definition :=
  [order, shipment, line, parcel, wide, odd, marker, pairU32, pairText, echo, assignCarrier,
    changeLineQty, removeLine, splitLine, reweighParcel, annotateLine, lineShipped, parcelShipped,
    parcelLost, orderNoted]

def definition? (short : String) : Option Definition :=
  definitions.find? (·.short == short)

/-- A record of a type of the shop; a field that is not given has its default value. -/
def Definition.record (d : Definition)
    (value? : (field : String) → (t : FieldType) → Option t.Carrier) : d.type.Instance :=
  ⟨{ type := d.type.id
     fields := d.fields.map fun (name, t) => (name, ⟨t, (value? name t).getD t.default⟩) }, rfl⟩

def label (r : Record) : String :=
  let short := ((definitions.find? (·.type.id == r.type)).map (·.short)).getD ""
  let tag := match r.read "tag" with
    | .text s => s
    | _ => ""
  short ++ ":" ++ tag

end AggregateRouting.Shop
