import AggregateRouting.Source.Listed
import AggregateRouting.Source.Token

/-! # Parameters of structures

The parameters of a structure, and how they are written where it is named and where something is
declared for it. Lifetimes stand before other parameters. -/

namespace AggregateRouting

open Source (Token)

inductive Parameter.Role
  | lifetime
  | type
  | constant
  deriving DecidableEq

/-- A parameter of a structure as it is written. The bound of a constant is its type. -/
structure Parameter where
  attributes : List Token := []
  role : Parameter.Role
  name : List Token
  bound : List Token := []
  default : List Token := []
  deriving DecidableEq

namespace Parameter

def isLifetime (p : Parameter) : Bool :=
  p.role = .lifetime

/-- A parameter as it is declared again, which is without its default. -/
def declaration (p : Parameter) : List Token :=
  p.attributes ++ (if p.role = .constant then [.word "const"] else []) ++ p.name
    ++ (if p.bound = [] then [] else .mark ':' :: p.bound)

end Parameter

structure Parameters where
  list : List (Source.Listed Parameter) := []
  deriving DecidableEq

namespace Parameters

def declarations (ps : Parameters) : List (List Token) :=
  ps.list.map (·.value.declaration)

def applied (ps : Parameters) (name : String) : List Token :=
  if ps.list.isEmpty then [.word name]
  else
    let names := Source.Listed.joined (.mark ',') (ps.list.map (·.map fun p => p.name))
    .word name :: .mark '<' :: names ++ [.mark '>']

end Parameters
end AggregateRouting
