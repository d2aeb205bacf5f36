import AggregateRouting.Source.Reader

/-! # Phrases

The kinds of source text that may contain one another. A reader of one of them is written as if
readers of all of them were there already. -/

namespace AggregateRouting.Source

/-- What a phrase turned out to be, as far as what may follow depends on it. -/
inductive Shape
  | name
  | path
  | bound
  | bracketedBound
  | group
  | lifetime
  | capture
  | range
  | openRange
  | comparison
  /-- An expression that ends in a block, and is complete as a statement. -/
  | block
  | curlyCall
  | other
  deriving DecidableEq

inductive Phrase
  /-- A type, which may be several bounds if `plus`. -/
  | type (plus : Bool)
  | bound (captures constant : Bool)
  | pattern
  /-- An expression, which may end in a structure with its fields if `structs`. -/
  | expression (structs : Bool)
  | operand (structs : Bool)
  /-- The rest of an expression after its left part, up to an operator that binds less. -/
  | operation (structs : Bool) (least : Nat) (left : Shape)
  | arms
  | block (attributes : Bool)
  | item
  | field
  | useTree (rooted : Bool)
  deriving DecidableEq

abbrev Grammar := Phrase → Reader Shape

namespace Grammar
variable (read : Grammar)

def type (plus : Bool := true) : Reader Unit :=
  discard (read (.type plus))

def expression (structs : Bool := true) : Reader Unit :=
  discard (read (.expression structs))

def block (attributes : Bool := false) : Reader Unit :=
  discard (read (.block attributes))

def patterns : Reader Shape := do
  let barred ← Reader.accept "|"
  let first ← read .pattern
  Reader.loop (fun _ => do
    if (← Reader.sees "|") && !(← Reader.seesAny ["||", "|="]) then
      Reader.take
      discard <| read .pattern
      return some .other
    return none) (if barred then .other else first)

def result (plus : Bool) : Reader Unit := do
  if ← Reader.accept "->" then read.type plus

end Grammar
end AggregateRouting.Source
