import AggregateRouting.Source.Grammar
import AggregateRouting.Source.Lexeme

/-! # Written items

An item as the texts of its parts. The parts are put together to one text and read as a whole, so a
part can change what stands around it. -/

namespace AggregateRouting.Written

open Source (Token)

inductive Literal
  | text (s : String)
  | number (written : String)
  | flag (b : Bool)

structure Entry where
  key : String
  value : Option Literal := none

inductive Argument
  | nothing
  | entries (es : List Entry)
  | equals (text : String)

structure Attribute where
  path : String
  argument : Argument := .nothing

structure Field where
  name : String
  type : String
  attributes : List Attribute := []

/-- A function has no fields, and an enumeration has no variants. -/
inductive Kind
  | struct
  | unit
  | tuple
  | union
  | enum
  | function

structure Item where
  kind : Kind
  name : String
  attributes : List Attribute := []
  parameters : List String := []
  condition : Option String := none
  fields : List Field := []

/-! ### Tokens -/

def Literal.token : Literal → Token
  | text s => .quoted s (Quoted.ofText s)
  | number s => .literal s
  | flag b => .word (if b then "true" else "false")

def grouped (b : Source.Bracket) (ts : List Token) : List Token :=
  [.opening b] ++ ts ++ [.closing b]

def separated (parts : List (List Token)) : List Token :=
  [Token.mark ','].intercalate parts

def Entry.tokens? (e : Entry) : Option (List Token) := do
  let key ← Token.ofText? e.key
  return match e.value with
    | none => key
    | some v => key ++ [.mark '=', v.token]

def entriesTokens? (es : List Entry) : Option (List Token) := do
  return separated (← es.mapM (·.tokens?))

def Argument.tokens? : Argument → Option (List Token)
  | nothing => some []
  | entries es => do return grouped .round (← entriesTokens? es)
  | equals s => some [.mark '=', .quoted s (Quoted.ofText s)]

def Attribute.tokens? (a : Attribute) : Option (List Token) := do
  let path ← Token.ofText? a.path
  return [.mark '#'] ++ grouped .square (path ++ (← a.argument.tokens?))

def attributesTokens? (as : List Attribute) : Option (List Token) := do
  return (← as.mapM (·.tokens?)).flatten

def Field.tokens? (f : Field) (named : Bool) : Option (List Token) := do
  let attributes ← attributesTokens? f.attributes
  let name ← if named then Token.ofText? f.name else some []
  let type ← Token.ofText? f.type
  return attributes ++ (if named then name ++ [.mark ':'] else []) ++ type

def Item.fieldsTokens? (i : Item) (named : Bool) : Option (List Token) := do
  let fields ← i.fields.mapM (·.tokens? named)
  return grouped (if named then .curly else .round) (separated fields)

def Item.parametersTokens? (i : Item) : Option (List Token) := do
  let parameters ← i.parameters.mapM Token.ofText?
  if parameters.isEmpty then return []
  return [.mark '<'] ++ separated parameters ++ [.mark '>']

def Item.conditionTokens? (i : Item) : Option (List Token) :=
  match i.condition with
  | none => some []
  | some s => do return .word "where" :: (← Token.ofText? s)

/-- The tokens of an item after its name. Only structures have parameters and conditions. -/
def Item.bodyTokens? (i : Item) : Option (List Token) := do
  let head ← i.parametersTokens?
  let condition ← i.conditionTokens?
  let semicolon : List Token := [.mark ';']
  match i.kind with
  | .struct => return head ++ condition ++ (← i.fieldsTokens? true)
  | .unit => return head ++ condition ++ semicolon
  | .tuple => return head ++ (← i.fieldsTokens? false) ++ condition ++ semicolon
  | .union => i.fieldsTokens? true
  | .enum => return grouped .curly []
  | .function => return grouped .round [] ++ grouped .curly []

def Kind.word : Kind → String
  | struct | unit | tuple => "struct"
  | union => "union"
  | enum => "enum"
  | function => "fn"

/-- The tokens of an item, if its parts can be told apart into tokens. -/
def Item.tokens? (i : Item) : Option (List Token) := do
  let attributes ← attributesTokens? i.attributes
  let name ← Token.ofText? i.name
  return attributes ++ [.word i.kind.word] ++ name ++ (← i.bodyTokens?)

/-! ### Reading -/

def Item.read? (i : Item) : Option (Except Source.Fault (AggregateRouting.Item (List Token))) :=
  i.tokens?.map Source.readItem

end AggregateRouting.Written
