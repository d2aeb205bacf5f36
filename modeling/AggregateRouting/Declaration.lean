import AggregateRouting.Declaration.Parameter

/-! # Declarations

Items as far as property tables need them: structures with their fields, and the attributes on both,
which are kept as they are written. The type of a field is carried along and never looked at, so it
may be anything. -/

namespace AggregateRouting

open Source (Bracket Token)

/-- What follows the path of an attribute: nothing, a group in brackets, or something after an
equals sign. -/
inductive Argument
  | nothing
  | group (b : Bracket) (content : List Token)
  | equals (value : List Token)
  deriving DecidableEq

structure Attribute where
  path : String
  argument : Argument := .nothing
  deriving DecidableEq

structure Field (τ : Type) where
  visibility : List Token := []
  name : String
  type : τ
  attributes : List Attribute := []
  deriving DecidableEq

inductive Fields (τ : Type)
  | named (fields : List (Field τ))
  | unit
  | tuple (types : List τ)
  deriving DecidableEq

structure Struct (τ : Type) where
  visibility : List Token := []
  name : String
  attributes : List Attribute := []
  parameters : Parameters := {}
  condition : Option (List Token) := none
  fields : Fields τ
  deriving DecidableEq

inductive Item (τ : Type)
  | struct (s : Struct τ)
  | other
  deriving DecidableEq

end AggregateRouting
