import AggregateRouting.Text.Outline

/-! # Routing values

What a message and a child entity are compared by. Two values are the same only if their kinds are,
however alike they are displayed. -/

namespace AggregateRouting

inductive RoutingValue
  | absent
  | bool (b : Bool)
  | int (i : Int)
  | text (s : String)
  deriving DecidableEq, Inhabited

namespace RoutingValue

def isAbsent (v : RoutingValue) : Bool :=
  v == absent

def display : RoutingValue → String
  | absent => "null"
  | bool b => Outline.flag b
  | int i => toString i
  | text s => s

def outline : RoutingValue → String
  | absent => "Null"
  | bool b => Outline.call "Bool" (Outline.flag b)
  | int i => Outline.call "Integer" (toString i)
  | text s => Outline.call "Text" (Quoted.ofText s)

@[simp] theorem isAbsent_iff {v : RoutingValue} : v.isAbsent = true ↔ v = absent := by
  simp [isAbsent]

end RoutingValue
end AggregateRouting
