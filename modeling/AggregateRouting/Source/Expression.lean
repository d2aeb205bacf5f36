import AggregateRouting.Source.Generics
import AggregateRouting.Source.Operator

/-! # Expressions

Reading operands: literals, paths and calls, groups, functions without a name, and what ends in a
block. -/

namespace AggregateRouting.Source

variable (read : Grammar)

/-! ### What ends in a block -/

def conditional : Reader Unit :=
  Reader.repeatedly do
    Reader.expect "if"
    read.expression false
    read.block
    if !(← Reader.accept "else") then return false
    Reader.choose [("if", return true), (Bracket.curly, do read.block; return false)]

/-- Whether `for` binds parameters, and does not begin a loop. -/
def seesBinder : Reader Bool := do
  return (← Reader.sees "for") && (← seesParameters 1)

def repetition? : Reader Bool := do
  if ← Reader.accept "while" then read.expression false
  else if (← Reader.sees "for") && !(← seesBinder) then
    Reader.take
    discard <| read.patterns
    Reader.expect "in"
    read.expression false
  else unless ← Reader.accept "loop" do return false
  read.block true
  return true

/-- Reads an expression that ends in a block, except for functions without a name, if there is
one. -/
def controlled? : Reader Bool := do
  if ← repetition? read then return true
  if ← Reader.sees "if" then conditional read
  else if ← Reader.accept "match" then
    read.expression false
    discard <| read .arms
  else if (← Reader.sees "try") && (← Reader.sees Bracket.curly 1) then
    Reader.take
    read.block
  else if (← Reader.sees "const") && (← Reader.sees Bracket.curly 1) then
    Reader.take
    read.block true
  else if ← Reader.accept "unsafe" then read.block true
  else if ← Reader.sees Bracket.curly then read.block true
  else if ← Reader.accept .lifetime then
    Reader.expect ":"
    unless ← repetition? read do
      unless ← Reader.sees Bracket.curly do Reader.fail .expectedLoop
      read.block true
  else return false
  return true

/-! ### Functions without a name -/

def seesFunction : Reader Bool := do
  return (← Reader.seesAny ["|", "move", "static"]) || (← seesBinder)
    || (← Reader.sees "const") && !(← Reader.sees Bracket.curly 1)
    || (← Reader.sees "async") && (← Reader.seesAny ["|", "move"] 1)

def function (structs : Bool) : Reader Unit := do
  if ← Reader.sees "for" then binder read
  discard <| Reader.accept "const"
  discard <| Reader.accept "static"
  discard <| Reader.accept "async"
  discard <| Reader.accept "move"
  Reader.expect "|"
  discard <| Reader.listed (Reader.sees "|") do
    discard <| attributes read
    discard <| read .pattern
    if ← Reader.accept ":" then read.type
  Reader.expect "|"
  if ← Reader.accept "->" then
    read.type
    read.block
  else read.expression structs

/-! ### Groups -/

def expressionsInside (b : Bracket) : Reader Unit :=
  discard <| Reader.listedInside b read.expression

def elements : Reader Unit :=
  Reader.inside .square do
    if ← Reader.atEnd then return
    read.expression
    if ← Reader.accept ";" then read.expression
    else unless ← Reader.atEnd do
      unless ← Reader.accept "," do Reader.fail (.expected [",", ";"])
      discard <| Reader.listed Reader.atEnd read.expression

def fieldValues : Reader Unit :=
  Reader.inside .curly do
    Reader.repeatedly do
      if ← Reader.atEnd then return false
      if ← Reader.accept ".." then
        unless ← Reader.atEnd do read.expression
        return false
      discard <| attributes read
      let named ← member
      if !named || (← Reader.sees ":") then
        Reader.expect ":"
        read.expression
      if ← Reader.atEnd then return false
      Reader.expect ","
      return true

/-! ### Operands -/

def pathOperand (structs : Bool) : Reader Shape := do
  let f ← qualifiedPath read true
  if ← seesCall f then
    Reader.take
    return if (← Reader.anyGroup) = .curly then .curlyCall else .other
  if structs && (← Reader.sees Bracket.curly) then fieldValues read
  return .other

def seesExpression : Reader Bool := do
  if ← Reader.seesAny ["as", "!=", "-=", "->", "*=", "|=", "&=", "<=", "<<="] then return false
  return (← Reader.seesWord) || (← Reader.seesAny (Bracket.all.map .group))
    || (← Reader.seesAny [.literal, "!", "-", "*", "|", "&", "..", "<", "::", .lifetime, "#"])

/-- Reads what is left: a word, perhaps with a label, and perhaps an expression. What becomes of a
function is written as it is. -/
def leaving (structs : Bool) : Reader Unit := do
  if ← Reader.accept "break" then
    if (← Reader.sees .lifetime) && (← Reader.sees ":" 1) then
      read.expression
      Reader.refuse .labelledBreak
    discard <| Reader.accept .lifetime
    if (← seesExpression) && (structs || !(← Reader.sees Bracket.curly)) then read.expression
  else if ← Reader.accept "continue" then discard <| Reader.accept .lifetime
  else if ← Reader.sees "become" then
    Reader.verbatimIf do
      Reader.take
      read.expression
      return ((), true)
  else
    Reader.take
    if ← seesExpression then read.expression

def seesPath : Reader Bool := do
  return (← Reader.seesAny [.identifier, "::", "<", "self", "Self", "super", "crate"])
    || (← Reader.sees "try") && (← Reader.seesAny ["!", "::"] 1)

def atom (structs : Bool) : Reader Shape := do
  if ← Reader.accept .literal then return .other
  if ← controlled? read then return .block
  let moves : Nat := if ← Reader.sees "move" 1 then 2 else 1
  if (← Reader.sees "async") && (← Reader.sees Bracket.curly moves) then
    Reader.take moves
    read.block
  else if ← seesFunction then function read structs
  else if (← Reader.sees "builtin") && (← Reader.sees "#" 1) then
    Reader.take 2
    discard Reader.name
    Reader.inside .round (Reader.repeatedly do
      if ← Reader.atEnd then return false
      Reader.tree
      return true)
  else if ← seesPath then return ← pathOperand read structs
  else if ← Reader.sees Bracket.round then expressionsInside read .round
  else if ← Reader.seesAny ["break", "continue", "return", "become", "yield"] then
    leaving read structs
  else if ← Reader.sees Bracket.square then elements read
  else if ← Reader.accept "let" then
    discard <| read.patterns
    Reader.expect "="
    let left ← read (.operand structs)
    discard <| read (.operation structs Binding.comparison left)
  else if ← Reader.sees ".." then
    restOfRange read structs
    return .range
  else unless ← Reader.accept "_" do Reader.fail .expectedExpression
  return .other

/-- Reads two numbers of fields with a point between them, or the first of them and the point. Says
whether there was a second one. -/
def fieldNumbers (written : List Char) : Reader Bool := do
  let second := (written.dropWhile (· ≠ '.')).drop 1
  Reader.skip 1
  writeFieldNumber (written.takeWhile (· ≠ '.'))
  Reader.write [.mark '.']
  unless second.isEmpty do writeFieldNumber second
  return !second.isEmpty

def selection : Reader Unit := do
  if let .literal s :: _ := (← get).rest then
    if s.toList.head?.any (·.isDigit) && s.toList.contains '.' then
      if ← fieldNumbers s.toList then return
  if ← Reader.accept "await" then return
  let named ← member
  let applied := named && (← Reader.sees "::")
  if applied then
    unless ← Reader.sees "<" 2 do
      Reader.skip 2
      Reader.miss "<"
    discard <| arguments read
  if applied || named && (← Reader.sees Bracket.round) then expressionsInside read .round

def trailer (e : Shape) : Reader Shape :=
  Reader.loop (fun e => do
    if ← Reader.sees Bracket.round then expressionsInside read .round
    else if (← Reader.sees ".") && !(← Reader.sees "..") && e ≠ .range then
      Reader.take
      selection read
    else if ← Reader.sees Bracket.square then Reader.inside .square read.expression
    else if (← Reader.sees "?") && e ≠ .range then Reader.take
    else return none
    return some .other) e

/-- Reads an operand with the operators before it. A range that starts with its points has no
attributes. -/
def operand (structs : Bool) : Reader Shape := do
  let attributes ← attributes read
  if ← Reader.accept "&" then
    if (← Reader.sees "raw") && (← Reader.seesAny ["mut", "const"] 1) then Reader.take 2
    else discard <| Reader.accept "mut"
  else if ← Reader.seesAny ["*", "!", "-"] then Reader.take
  else
    let e ← trailer read (← atom read structs)
    if e = .range && !attributes.isEmpty then Reader.refuse .attributesOfRange
    return e
  discard <| read (.operand structs)
  return .other

def expression (structs : Bool) : Reader Shape := do
  read (.operation structs 0 (← read (.operand structs)))

/-- Reads an expression that is a statement or the result of an arm. One that ends in a block is
complete there, unless it is an operand for itself. -/
def complete : Reader Shape := do
  discard <| attributes read
  if ← controlled? read then
    let selected := (← Reader.sees ".") && !(← Reader.sees "..") || (← Reader.sees "?")
    if !selected then return .block
    let e ← trailer read .block
    return ← read (.operation true 0 e)
  read (.operation true 0 (← read (.operand true)))

/-! ### Arms -/

/-- Reads the arms of a match. Only after a block the comma may be missing. -/
def arms : Reader Unit :=
  Reader.inside .curly do
    innerAttributes read
    Reader.repeatedly do
      if ← Reader.atEnd then return false
      discard <| attributes read
      discard <| read.patterns
      if ← Reader.accept "if" then read.expression
      Reader.expect "=>"
      let body ← complete read
      if body ≠ .block && !(← Reader.atEnd) then Reader.expect ","
      else discard <| Reader.accept ","
      return true

end AggregateRouting.Source
