import AggregateRouting.Source.Pattern

/-! # Operators

Reading the binary operators of an expression: what binds more is read first, comparisons cannot
follow one another, and a range has nothing after it. -/

namespace AggregateRouting.Source

/-! ### How much operators bind -/

namespace Binding

def assignment : Nat := 1
def range : Nat := 2
def comparison : Nat := 5
def cast : Nat := 12

/-- The operators of two operands with how much they bind, longer ones before those that they start
with. -/
def operators : List (String × Nat) :=
  [("+=", 1), ("-=", 1), ("*=", 1), ("/=", 1), ("%=", 1), ("^=", 1), ("&=", 1), ("|=", 1),
    ("<<=", 1), (">>=", 1), ("&&", 4), ("||", 3), ("<<", 9), (">>", 9), ("==", 5), ("<=", 5),
    ("!=", 5), (">=", 5), ("+", 10), ("-", 10), ("*", 11), ("/", 11), ("%", 11), ("^", 7), ("&", 8),
    ("|", 6), ("<", 5), (">", 5)]

end Binding

def nextOperator? : Reader (Option (String × Nat)) := do
  let ts := (← get).rest
  return Binding.operators.find? fun (s, _) => ((Expected.written s).extent? ts).isSome

def nextBinding : Reader Nat := do
  if let some (_, binding) ← nextOperator? then return binding
  if (← Reader.sees "=") && !(← Reader.sees "=>") then return Binding.assignment
  if ← Reader.sees ".." then return Binding.range
  if ← Reader.sees "as" then return Binding.cast
  return 0

variable (read : Grammar)

/-- Reads the right operand of an operator, with all that binds more. Assignments group to the
right. -/
def rightOperand (structs : Bool) (binding : Nat) : Reader Unit := do
  let right ← read (.operand structs)
  discard <| Reader.loop (fun right => do
    let next ← nextBinding
    if next < binding || next = binding && binding ≠ Binding.assignment then return none
    let length := (← get).rest.length
    let right ← read (.operation structs next right)
    return if (← get).rest.length = length then none else some right) right

def rangeEnds? (structs : Bool) : Reader Bool := do
  let marks : List Expected := [",", ";", "?", "=>", "=", "+", "/", "%", "^", ">", "<=", "!=", "-=",
    "*=", "&=", "|=", "<<=", "as"]
  return (← Reader.atEnd) || (← Reader.seesAny marks)
    || (← Reader.sees ".") && !(← Reader.sees "..")
    || !structs && (← Reader.sees Bracket.curly)

def restOfRange (structs : Bool) : Reader Unit := do
  let openEnded ← rangePoints
  unless openEnded && (← rangeEnds? structs) do rightOperand read structs Binding.range

/-- A cast cannot be followed by what belongs to a single operand. -/
def checkAfterCast : Reader Unit := do
  if (← Reader.sees ".") && !(← Reader.sees "..") then
    if ← Reader.sees "await" 1 then Reader.fail (.afterCast "`.await`")
    if (← Reader.sees .identifier 1) && (← Reader.seesAny [Bracket.round, "::"] 2) then
      Reader.fail (.afterCast "a method call")
    Reader.fail (.afterCast "a field access")
  if ← Reader.sees "?" then Reader.fail (.afterCast "`?`")
  if ← Reader.sees Bracket.square then Reader.fail (.afterCast "indexing")
  if ← Reader.sees Bracket.round then Reader.fail (.afterCast "a function call")

/-- Reads one more operator that binds at least so much, if it comes next after the left part of an
expression. -/
def nextOperation (structs : Bool) (least : Nat) (left : Shape) : Reader (Option Shape) := do
  if left = .range then return none
  if let some (operator, binding) ← nextOperator? then
    if binding < least then return none
    let compares := binding = Binding.comparison
    if compares && left = .comparison then Reader.fail .chainedComparison
    Reader.take operator.length
    rightOperand read structs binding
    return some (if compares then .comparison else .other)
  let assigns := (← Reader.sees "=") && !(← Reader.sees "=>")
  if assigns && least ≤ Binding.assignment then
    Reader.take
    rightOperand read structs Binding.assignment
    return some .other
  if (← Reader.sees "..") && least ≤ Binding.range then
    restOfRange read structs
    return some .range
  if (← Reader.sees "as") && least ≤ Binding.cast then
    Reader.take
    read.type false
    checkAfterCast
    return some .other
  return none

def operation (structs : Bool) (least : Nat) (left : Shape) : Reader Shape :=
  Reader.loop (nextOperation read structs least) left

end AggregateRouting.Source
