import AggregateRouting.Source.Pattern
import AggregateRouting.Source.TypeForm

/-! # Functions

Reading the head of a function. -/

namespace AggregateRouting.Source

variable (read : Grammar)

/-- Reads what can stand before a function: words and where it comes from. Says whether it is called
safe, where that is allowed. -/
def functionMarks (safely : Bool) : Reader Bool := do
  discard <| Reader.accept "const"
  discard <| Reader.accept "async"
  let safe := safely && (← Reader.sees "safe")
  if safe then Reader.take else discard <| Reader.accept "unsafe"
  if ← Reader.accept "extern" then discard <| Reader.accept .text
  return safe

def seesFunctionHead (safely : Bool := false) : Reader Bool := do
  let head ← Reader.ahead do
    discard <| functionMarks safely
    Reader.expect "fn"
  return head.isSome

def receiver : Reader Unit := do
  let borrowed ← Reader.accept "&"
  if borrowed then discard <| Reader.accept .lifetime
  discard <| Reader.accept "mut"
  Reader.expect "self"
  if !borrowed then
    if ← Reader.accept ":" then read.type

inductive FunctionParameter
  | receiver
  | typed
  | variadic
  deriving DecidableEq

/-- Reads a parameter of a function. One that is a type alone gets a name. -/
def functionParameter : Reader FunctionParameter := do
  if ← Reader.accept "..." then return .variadic
  if (← Reader.ahead (receiver read)).isSome then
    receiver read
    return .receiver
  if (← Reader.sees .identifier) && (← Reader.sees "<" 1) then
    Reader.write [.word "_", .mark ':']
    read.type
    return .typed
  discard <| read .pattern
  Reader.expect ":"
  if ← Reader.accept "..." then return .variadic
  read.type
  return .typed

/-- Reads the parameters of a function. What a method is called on comes first, and any number of
arguments last. -/
def functionParameters : Reader Unit :=
  Reader.inside .round do
    discard <| Reader.loop (fun receivers? => do
      if ← Reader.atEnd then return none
      discard <| attributes read
      let form ← functionParameter read
      if form = .receiver then
        if let some found := receivers? then Reader.refuse (.receiver found)
      if ← Reader.atEnd then return none
      Reader.expect ","
      if form = .variadic then return none
      return some (some (form = .receiver || receivers? = some true))) none

def functionHead (safely : Bool := false) : Reader Bool := do
  let safe ← functionMarks safely
  Reader.expect "fn"
  discard Reader.name
  discard <| parameters read
  functionParameters read
  read.result true
  discard <| condition read
  return safe

end AggregateRouting.Source
