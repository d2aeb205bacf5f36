import AggregateRouting.Source.Attribute
import AggregateRouting.Source.Path

/-! # Parameters and conditions

Reading the parameters of an item and the conditions on them. Lifetimes are written before other
parameters. Brackets without parameters, a colon without bounds and a condition without any terms
are not written. -/

namespace AggregateRouting.Source

variable (read : Grammar)

/-! ### Parameters -/

/-- Reads what follows a colon, and drops the colon if that is nothing. -/
def afterColon (bounds : Reader Unit) : Reader (List Token) := do
  if !(← Reader.sees ":") then return []
  Reader.skip 1
  let (_, ts) ← Reader.collect bounds
  unless ts.isEmpty do Reader.write (.mark ':' :: ts)
  return ts

def lifetimeParameter : Reader Parameter := do
  let (_, name) ← Reader.collect (Reader.expect .lifetime)
  Reader.write name
  let bound ← afterColon (boundsUntil (Reader.endsBefore [",", ">"]) (Reader.expect .lifetime))
  return { role := .lifetime, name := name, bound := bound }

def parameterDefault (value : Reader Unit) : Reader (List Token) := do
  if !(← Reader.accept "=") then return []
  let (_, ts) ← Reader.collect value
  Reader.write ts
  return ts

def typeParameter : Reader Parameter := do
  let name ← Reader.name
  let bound := discard <| read (.bound false true)
  let bound ← afterColon (boundsUntil (Reader.endsBefore [",", ">", "="]) bound)
  let default ← parameterDefault read.type
  return { role := .type, name := [.word name], bound := bound, default := default }

def constantParameter : Reader Parameter := do
  Reader.expect "const"
  let name ← Reader.name
  Reader.expect ":"
  let (_, type) ← Reader.collect (read.type)
  Reader.write type
  let default ← parameterDefault (constantArgument read)
  return { role := .constant, name := [.word name], bound := type, default := default }

def parameter : Reader Parameter := do
  let (_, attributes) ← Reader.collect (attributes read)
  Reader.write attributes
  if ← Reader.accept "_" then
    return { attributes := attributes, role := .type, name := [.word "_"] }
  let p ← Reader.choose
    [(.lifetime, lifetimeParameter), (.identifier, typeParameter read),
      ("const", constantParameter read)]
  return { p with attributes := attributes }

def parameters : Reader Parameters := do
  if !(← Reader.sees "<") then return {}
  Reader.skip 1
  let (ps, ts) ← Reader.collect do
    Reader.listedFirst Parameter.isLifetime (Reader.sees ">") (parameter read)
  if !(← Reader.sees ">") then Reader.miss ">"
  Reader.skip 1
  unless ts.isEmpty do Reader.write ([.mark '<'] ++ ts ++ [.mark '>'])
  return ⟨ps⟩

def boundParameter : Reader Unit := do
  discard <| attributes read
  discard <| Reader.choose
    [(.identifier, typeParameter read), (.lifetime, lifetimeParameter),
      ("const", constantParameter read)]

/-- Reads `for` with the parameters that it binds, which stay in their order. -/
def binder : Reader Unit := do
  Reader.expect "for"
  Reader.expect "<"
  discard <| Reader.listed (Reader.sees ">") (boundParameter read)
  Reader.expect ">"

/-- Whether parameters follow after some trees, and not a type in angle brackets. -/
def seesParameters (after : Nat := 0) : Reader Bool := do
  if !(← Reader.sees "<" after) then return false
  let named := (← Reader.seesAny [.lifetime, .identifier] (after + 1))
    && ((← Reader.seesAny [">", ",", "="] (after + 2))
      || (← Reader.sees ":" (after + 2)) && !(← Reader.sees "::" (after + 2)))
  return named || (← Reader.seesAny [">", "#", "const"] (after + 1))

/-! ### Conditions -/

def conditionEnds : Reader Bool := do
  return (← Reader.endsBefore [Bracket.curly, ",", ";", "="])
    || (← Reader.sees ":") && !(← Reader.sees "::")

def term : Reader Unit := do
  if (← Reader.sees .lifetime) && (← Reader.sees ":" 1) then
    Reader.take 2
    boundsUntil (return (← conditionEnds) || (← Reader.sees ":")) (Reader.expect .lifetime)
  else
    if ← Reader.sees "for" then binder read
    read.type
    Reader.expect ":"
    boundsUntil conditionEnds (discard <| read (.bound false true))

def condition : Reader (Option (List Token)) := do
  if !(← Reader.sees "where") then return none
  Reader.skip 1
  if ← seesParameters then Reader.fail .parametersOfCondition
  let (_, ts) ← Reader.collect do
    Reader.repeatedly do
      if ← conditionEnds then return false
      term read
      Reader.accept ","
  if ts.isEmpty then return none
  Reader.write (.word "where" :: ts)
  return some ts

end AggregateRouting.Source
