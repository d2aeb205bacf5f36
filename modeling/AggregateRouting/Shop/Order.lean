import AggregateRouting.EntityModel
import AggregateRouting.Member
import AggregateRouting.Shop.Catalog
import Std.Data.TreeMap

/-! # Orders

The aggregate of the shop: an order, the child entities that it holds in members of every kind, and
the members by which a model of orders is built. -/

namespace AggregateRouting.Shop

structure Order where
  orderId : String := ""
  shipment : Option Shop.shipment.type.Instance := none
  backup : Option Shop.line.type.Instance := none
  wide : Option Shop.wide.type.Instance := none
  odd : Option Shop.odd.type.Instance := none
  marker : Option Shop.marker.type.Instance := none
  lines : List Shop.line.type.Instance := []
  crates : List Shop.parcel.type.Instance := []
  wides : List Shop.wide.type.Instance := []
  odds : List Shop.odd.type.Instance := []
  markers : List Shop.marker.type.Instance := []
  pairsN : List Shop.pairU32.type.Instance := []
  parcels : Std.TreeMap String Shop.parcel.type.Instance := ∅
  wideMap : Std.TreeMap String Shop.wide.type.Instance := ∅
  pairsT : Std.TreeMap String Shop.pairText.type.Instance := ∅
  slots : Std.TreeMap Int Shop.line.type.Instance := ∅
  drafts : Std.TreeMap String Shop.parcel.type.Instance := ∅
  ring : Std.TreeMap Int Shop.line.type.Instance := ∅

namespace Order

def single (name : String) (d : Definition) (get : Order → Option d.type.Instance) : Member Order :=
  { name := name, declaredType := d.type.name, slot := .single d.type get }

def sequence (name : String) (d : Definition) (get : Order → List d.type.Instance) :
    Member Order :=
  { name := name, declaredType := "[" ++ d.type.name ++ "]", slot := .sequence d.type get }

def keyed (name declaredType : String) (d : Definition) (values : Order → List d.type.Instance) :
    Member Order :=
  { name := name, declaredType := declaredType, slot := .keyed d.type values }

def sorted {κ : Type} [Ord κ] (name key : String) (d : Definition)
    (get : Order → Std.TreeMap κ d.type.Instance) : Member Order :=
  keyed name ("alloc::collections::btree::map::BTreeMap<" ++ key ++ ", " ++ d.type.name ++ ">") d
    fun o => (get o).values

def value (name declaredType : String) : Member Order :=
  { name := name, declaredType := declaredType, slot := .value }

private def textKey : String := "alloc::string::String"

/-- The members of orders. The ring goes through its keys from the greatest to the least, and there
is at most one draft. -/
def members : List (Member Order) :=
  [single "shipment" Shop.shipment (·.shipment),
    single "backup" line (·.backup),
    single "wide" Shop.wide (·.wide),
    single "odd" Shop.odd (·.odd),
    single "marker" Shop.marker (·.marker),
    single "first_line" line (·.lines.head?),
    sequence "lines" line (·.lines),
    sequence "crates" parcel (·.crates),
    sequence "wides" Shop.wide (·.wides),
    sequence "odds" Shop.odd (·.odds),
    sequence "markers" Shop.marker (·.markers),
    sequence "pairs_n" pairU32 (·.pairsN),
    sorted "parcels" textKey parcel (·.parcels),
    sorted "wide_map" textKey Shop.wide (·.wideMap),
    sorted "pairs_t" textKey pairText (·.pairsT),
    sorted "slots" "i64" line (·.slots),
    keyed "drafts" "std::collections::hash::map::HashMap<alloc::string::String, shop::Parcel>"
      parcel (·.drafts.values),
    keyed "ring" "shop::Ring" line (·.ring.values.reverse),
    value "order_id" textKey,
    value "total" "u64",
    value "note" "str",
    value "line_list" "alloc::vec::Vec<shop::Line>"]

def member? (name : String) : Option (Member Order) :=
  members.find? (·.name == name)

end Order

def orderModel : EntityModel where
  entity := order.type
  routingKey := "order_id"

end AggregateRouting.Shop
