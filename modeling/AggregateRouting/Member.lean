import AggregateRouting.Metadata

/-! # Members of an aggregate

A member of a parent holds one child entity or none, a sequence of them, a keyed collection of them,
or a plain value. It says how to get at the children that a parent holds; whether messages pass to
them is up to its metadata. -/

namespace AggregateRouting

inductive ChildKind
  | single
  | sequence
  | keyed
  deriving DecidableEq

namespace ChildKind

/-- The kinds in the order in which they are tried. -/
def all : List ChildKind :=
  [single, sequence, keyed]

def outline : ChildKind → String
  | single => "Single"
  | sequence => "Sequence"
  | keyed => "Keyed"

end ChildKind

/-- How a member gets at what a parent of type `P` holds. The children of a keyed collection come in
the order of the collection. -/
inductive Slot (P : Type)
  | single (child : RecordType) (get : P → Option child.Instance)
  | sequence (child : RecordType) (get : P → List child.Instance)
  | keyed (child : RecordType) (values : P → List child.Instance)
  | value

namespace Slot
variable {P : Type}

def kind? : Slot P → Option ChildKind
  | single .. => some .single
  | sequence .. => some .sequence
  | keyed .. => some .keyed
  | value => none

def childType? : Slot P → Option RecordType
  | single child _ | sequence child _ | keyed child _ => some child
  | value => none

def children : Slot P → P → List Record
  | single _ get, p => (get p).toList.map (·.val)
  | sequence _ get, p => (get p).map (·.val)
  | keyed _ values, p => (values p).map (·.val)
  | value, _ => []

theorem type_of_mem_children {s : Slot P} {t : RecordType} (ht : s.childType? = some t) {p : P}
    {r : Record} (hr : r ∈ s.children p) : r.type = t.id := by
  cases s with
  | value => cases ht
  | single child get | sequence child get | keyed child get =>
    cases ht
    obtain ⟨c, -, rfl⟩ := List.mem_map.1 hr
    exact c.property

end Slot

structure Member (P : Type) where
  name : String
  declaredType : String
  slot : Slot P
  metadata : Option Metadata := none

namespace Member
variable {P : Type}

def kind? (m : Member P) : Option ChildKind :=
  m.slot.kind?

def childType? (m : Member P) : Option RecordType :=
  m.slot.childType?

def kindOutline (kind? : Option ChildKind) : String :=
  match kind? with
  | some kind => kind.outline
  | none => "Value"

def outline (m : Member P) : String :=
  Outline.record "StructuralMember"
    [("name", Quoted.ofText m.name), ("kind", kindOutline m.kind?),
      ("declared_type", Quoted.ofText m.declaredType),
      ("metadata", Outline.optional (m.metadata.map (·.outline)))]

end Member

structure MemberId where
  declaringType : String
  member : String
  deriving DecidableEq

namespace MemberId

def text (id : MemberId) : String :=
  id.declaringType ++ "." ++ id.member

def outline (id : MemberId) : String :=
  Outline.record "MemberId"
    [("declaring_type", Quoted.ofText id.declaringType), ("member", Quoted.ofText id.member)]

end MemberId
end AggregateRouting
