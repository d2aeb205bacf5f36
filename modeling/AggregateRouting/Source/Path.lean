import AggregateRouting.Source.Phrase

/-! # Paths

Words joined by double colons, with arguments in brackets. Among the arguments in angle brackets
lifetimes are written first. -/

namespace AggregateRouting.Source

/-- What a path turned out to be, as far as what may follow depends on it. -/
structure PathForm where
  qualified : Bool := false
  single : Bool
  applied : Bool
  /-- Whether its last word has arguments in brackets, which may not be empty. -/
  closed : Bool

def PathForm.plain (f : PathForm) : Bool :=
  !f.qualified && !f.applied

variable (read : Grammar)

/-! ### Arguments -/

def constantArgument : Reader Unit := do
  if !(← Reader.seesAny [.literal, .identifier, Bracket.curly]) then Reader.fail (.expected [])
  if ← Reader.sees Bracket.curly then read.block true
  else unless ← Reader.accept .literal do Reader.take

def boundsUntil (ends : Reader Bool) (bound : Reader Unit) : Reader Unit :=
  Reader.repeatedly do
    if ← ends then return false
    bound
    Reader.accept "+"

def argument : Reader Bool := do
  if (← Reader.sees .lifetime) && !(← Reader.sees "+" 1) then
    Reader.take
    return true
  if ← Reader.seesAny [.literal, Bracket.curly] then
    constantArgument read
    return false
  if (← read (.type true)) ≠ .name then return false
  if ← Reader.accept "=" then
    if ← Reader.seesAny [.literal, Bracket.curly] then constantArgument read else read.type
  else if ← Reader.accept ":" then
    boundsUntil (Reader.seesAny [",", ">"]) (discard <| read (.bound false true))
  return false

def arguments : Reader Nat := do
  discard <| Reader.accept "::"
  Reader.expect "<"
  let found ← Reader.listedFirst id (Reader.sees ">") (argument read)
  Reader.expect ">"
  return found.length

/-- A path without the empty angle brackets at its end, of which the last token comes first. -/
def withoutEmptyArguments : List Token → List Token
  | .mark '>' _ :: .mark '<' _ :: .mark ':' _ :: .mark ':' _ :: ts => ts
  | .mark '>' _ :: .mark '<' _ :: ts => ts
  | ts => ts

/-- Reads arguments in round brackets and the result after them, and says whether more of a path may
follow. Neither empty angle brackets nor a double colon before them are written. Two points stand
for any arguments. -/
def roundArguments : Reader Bool := do
  modify fun s => { s with written := withoutEmptyArguments s.written }
  if ← Reader.sees "::" then Reader.skip 2
  Reader.inside .round do
    unless ← Reader.accept ".." do discard <| Reader.listed Reader.atEnd (read.type)
  if ← Reader.accept "->" then return (← read (.type false)) = .group
  return true

def seesRoundArguments : Reader Bool := do
  return (← Reader.sees Bracket.round)
    || (← Reader.sees "::") && (← Reader.sees Bracket.round 2)

/-! ### Paths -/

/-- Reads a word of a path, and counts its arguments if there are brackets for them. In an
expression an angle bracket opens arguments only after a double colon. -/
def segment (inExpression : Bool) : Reader (Option Nat) := do
  if ← Reader.seesAny ["super", "self", "crate", "try"] then
    Reader.take
    return none
  unless ← Reader.accept "Self" do discard Reader.name
  let opened := (← Reader.sees "<") && !(← Reader.seesAny ["<=", "<<="])
  if !inExpression && opened || (← Reader.sees "::") && (← Reader.sees "<" 2) then
    return some (← arguments read)
  return none

def restOfPath (inExpression : Bool) (f : PathForm) : Reader PathForm :=
  Reader.loop (fun f => do
    if !(← Reader.sees "::") || (← Reader.sees Bracket.round 2) then return none
    Reader.take 2
    let count? ← segment read inExpression
    return some { f with
      single := false
      applied := f.applied || count?.isSome
      closed := count?.any (0 < ·) }) f

def path (inExpression : Bool) : Reader PathForm := do
  let rooted ← Reader.accept "::"
  let count? ← segment read inExpression
  restOfPath read inExpression
    { single := !rooted, applied := count?.isSome, closed := count?.any (0 < ·) }

def qualifiedPath (inExpression : Bool) : Reader PathForm := do
  if !(← Reader.accept "<") then return ← path read inExpression
  read.type
  if ← Reader.accept "as" then discard <| path read false
  Reader.expect ">"
  Reader.expect "::"
  let count? ← segment read inExpression
  let count? ← Reader.loop (fun _ => do
    if ← Reader.accept "::" then return some (← segment read inExpression)
    return none) count?
  return { qualified := true, single := false, applied := true, closed := count?.any (0 < ·) }

/-- Reads a path that names a type. It goes on after arguments in round brackets. -/
def typePath : Reader PathForm := do
  let f ← qualifiedPath read false
  Reader.loop (fun f => do
    if f.closed || !(← seesRoundArguments) then return none
    let more ← roundArguments read
    let f := { f with single := false, applied := true, closed := true }
    if more then return some (← restOfPath read false f) else return some f) f

end AggregateRouting.Source
