import AggregateRouting.RoutingValue
import AggregateRouting.Uuid

/-! # Field types

The types that a field of a record can have, the values of each, and the routing value that a value
is converted to. Integers of every width are converted to the same kind of routing value, and so are
texts, characters and identifiers; an optional value that is missing is absent. -/

namespace AggregateRouting

/-- The integers of a machine; those of word size have 64 bits. -/
inductive IntType
  | s8 | s16 | s32 | s64 | s128 | sWord
  | u8 | u16 | u32 | u64 | uWord
  deriving DecidableEq

namespace IntType

def isSigned : IntType → Bool
  | s8 | s16 | s32 | s64 | s128 | sWord => true
  | u8 | u16 | u32 | u64 | uWord => false

def bits : IntType → Nat
  | s8 | u8 => 8
  | s16 | u16 => 16
  | s32 | u32 => 32
  | s64 | sWord | u64 | uWord => 64
  | s128 => 128

def least (t : IntType) : Int :=
  if t.isSigned then -(Nat.pow 2 (t.bits - 1) : Nat) else 0

def greatest (t : IntType) : Int :=
  (Nat.pow 2 (if t.isSigned then t.bits - 1 else t.bits) : Nat) - 1

def Carrier (t : IntType) : Type :=
  { i : Int // t.least ≤ i ∧ i ≤ t.greatest }

instance (t : IntType) : DecidableEq t.Carrier :=
  inferInstanceAs (DecidableEq { i : Int // t.least ≤ i ∧ i ≤ t.greatest })

def ofInt? (t : IntType) (i : Int) : Option t.Carrier :=
  if h : t.least ≤ i ∧ i ≤ t.greatest then some ⟨i, h⟩ else none

def zero (t : IntType) : t.Carrier :=
  ⟨0, by cases t <;> decide⟩

end IntType

/-- Through what a value is held. None of these has a part in its value. -/
inductive Holder
  | borrowed
  | owned
  | shared
  deriving DecidableEq

inductive FieldType
  | int (t : IntType)
  | bool
  | char
  | text
  | uuid
  | value
  | optional (content : FieldType)
  | held (holder : Holder) (content : FieldType)
  deriving DecidableEq

namespace FieldType

def Carrier : FieldType → Type
  | int t => t.Carrier
  | bool => Bool
  | char => Char
  | text => String
  | uuid => Uuid
  | value => RoutingValue
  | optional content => Option content.Carrier
  | held _ content => content.Carrier

def routingValue : (t : FieldType) → t.Carrier → RoutingValue
  | int _, i => .int i.val
  | bool, b => .bool b
  | char, c => .text (String.singleton c)
  | text, s => .text s
  | uuid, u => .text u.text
  | value, v => v
  | optional _, none => .absent
  | optional content, some x => content.routingValue x
  | held _ content, x => content.routingValue x

@[simp] theorem routingValue_none (content : FieldType) :
    (optional content).routingValue none = .absent := rfl

@[simp] theorem routingValue_some (content : FieldType) (x : content.Carrier) :
    (optional content).routingValue (some x) = content.routingValue x := rfl

@[simp] theorem routingValue_held (holder : Holder) (content : FieldType) (x : content.Carrier) :
    (held holder content).routingValue x = content.routingValue x := rfl

/-- What a field holds that was never set. -/
def default : (t : FieldType) → t.Carrier
  | int t => t.zero
  | bool => false
  | char => '\x00'
  | text => ""
  | uuid => .nil
  | value => .absent
  | optional _ => none
  | held _ content => content.default

end FieldType

structure FieldValue where
  type : FieldType
  content : type.Carrier

def FieldValue.routingValue (f : FieldValue) : RoutingValue :=
  f.type.routingValue f.content

end AggregateRouting
