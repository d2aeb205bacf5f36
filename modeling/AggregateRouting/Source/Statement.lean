import AggregateRouting.Source.Expression
import AggregateRouting.Source.ItemForm

/-! # Statements

Reading the statements in a block. An expression needs a semicolon before another statement unless
it ends in a block. -/

namespace AggregateRouting.Source

variable (read : Grammar)

/-- Whether a variable or a constant of a module follows, or an item after one of the words that can
begin an expression too. -/
def seesItemAfterWord : Reader Bool := do
  let storage := (← Reader.seesAny ["mut", .identifier] 1)
  let functionHead : List Expected := ["unsafe", "extern", "fn"]
  let asyncFunction ← Reader.seesAny functionHead 2
  let movingFunction := (← Reader.seesAny [Bracket.curly, "static", "move", "|"] 1)
    || (← Reader.sees "async" 1) && !asyncFunction
  return (← Reader.sees "static") && storage
    || (← Reader.sees "const") && !movingFunction
    || (← Reader.sees "unsafe") && !(← Reader.sees Bracket.curly 1)
    || (← Reader.sees "async") && (← Reader.seesAny functionHead 1)
    || (← Reader.sees "crate") && !(← Reader.sees "::" 1)
    || (← Reader.sees "union") && (← Reader.sees .identifier 1)
    || (← Reader.sees "auto") && (← Reader.sees "trait" 1)
    || (← Reader.sees "default") && (← Reader.seesAny ["unsafe", "impl"] 1)

def seesItem : Reader Bool := do
  let words : List Expected := ["pub", "extern", "use", "fn", "mod", "type", "struct", "enum",
    "trait", "impl", "macro"]
  return (← Reader.seesAny words) || (← seesItemAfterWord)

inductive StatementForm
  | call
  | variable
  | item
  | expression

/-- What a statement is that starts with a call with an exclamation mark. One with a name defines an
item, and one in curly brackets is complete unless a point or a question mark follows. -/
def callForm? : Reader (Option StatementForm) := do
  let form ← Reader.ahead do
    placePath
    if !(← Reader.sees "!") then return none
    if ← Reader.seesAny [.identifier, "try"] 1 then return some StatementForm.item
    let selected := (← Reader.sees "." 2) && !(← Reader.sees ".." 2) || (← Reader.sees "?" 2)
    if (← Reader.sees Bracket.curly 1) && !selected then return some StatementForm.call
    return none
  return form.bind (·.1)

def statementForm : Reader StatementForm := do
  let form ← Reader.ahead do
    discard <| attributes read
    if let some form ← callForm? then return form
    if ← Reader.sees "let" then return .variable
    if ← seesItem then return .item
    return .expression
  return (form.map (·.1)).getD .expression

def localVariable : Reader Unit := do
  Reader.expect "let"
  discard <| read .pattern
  if ← Reader.accept ":" then read.type
  if ← Reader.accept "=" then
    let (_, value) ← Reader.collect read.expression
    Reader.write value
    if value.getLast? ≠ some (.closing .curly) then
      if ← Reader.accept "else" then read.block
  Reader.expect ";"

/-- Reads a statement, and says whether a semicolon is missing if another statement follows. -/
def statement : Reader Bool := do
  let form ← statementForm read
  if form matches .item then
    discard <| item read
    return false
  discard <| attributes read
  match form with
  | .call =>
    placePath
    Reader.expect "!"
    discard Reader.anyGroup
    discard <| Reader.accept ";"
    return false
  | .variable =>
    localVariable read
    return false
  | _ =>
    let e ← complete read
    if ← Reader.accept ";" then return false
    return e ≠ .block && e ≠ .curlyCall

def statements : Reader Unit :=
  Reader.repeatedly do
    Reader.repeatedly (Reader.accept ";")
    if ← Reader.atEnd then return false
    let missing ← statement read
    if ← Reader.atEnd then return false
    if missing then Reader.fail .expectedSemicolon
    return true

def block (attributes : Bool) : Reader Unit :=
  Reader.inside .curly do
    if attributes then innerAttributes read
    statements read

end AggregateRouting.Source
