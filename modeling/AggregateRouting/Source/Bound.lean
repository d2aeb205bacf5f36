import AggregateRouting.Source.Generics

/-! # Bounds

What a type has to satisfy: a lifetime that it outlives or a path, which may be in brackets. -/

namespace AggregateRouting.Source

variable (read : Grammar)

/-- Reads a bound that is a path, and says whether it starts with `const`. A question mark cannot
stand together with what `for` binds. -/
def pathBound (constant : Bool) : Reader Bool := do
  let binds ← Reader.sees "for"
  if binds then binder read
  let conditional ← Reader.sees Bracket.square
  let always ← Reader.sees "const"
  if conditional then
    Reader.inside .square (Reader.expect "const")
    unless constant do Reader.refuse (.boundNotAllowed "[const]")
  else if always then
    Reader.take
    unless constant do Reader.refuse (.boundNotAllowed "const")
  let possible ← Reader.accept "?"
  let bindsAfter := possible && !binds && (← Reader.sees "for")
  if bindsAfter then binder read
  let f ← path read false
  if !f.closed && (← seesRoundArguments) then discard <| roundArguments read
  if possible && (binds || bindsAfter) then Reader.refuse .conditionalBinder
  return conditional || always

/-- Reads the list of what a type may hold on to. -/
def capture : Reader Unit := do
  Reader.expect "use"
  Reader.expect "<"
  let element : Reader Bool := do
    if ← Reader.accept .lifetime then return true
    if ← Reader.seesAny [.identifier, "Self"] then
      Reader.take
      return false
    Reader.fail (.expected [.lifetime, .identifier, ">"])
  let ends : Reader Bool := Reader.sees ">"
  discard <| Reader.listedFirst id ends do
    let isLifetime ← element
    unless ← Reader.seesAny [",", ">"] do Reader.fail (.expected [",", ">"])
    return isLifetime
  Reader.expect ">"

def bound (captures constant : Bool) : Reader Shape := do
  if ← Reader.accept .lifetime then return .lifetime
  if ← Reader.sees "use" then
    capture
    unless captures do Reader.refuse (.boundNotAllowed "use<...>")
    return .capture
  Reader.verbatimIf do
    let constant ←
      if ← Reader.sees Bracket.round then Reader.inside .round (pathBound read constant)
      else pathBound read constant
    return (.other, constant)

/-- Reads bounds with plus signs between them, only one unless `plus`. -/
def bounds (plus captures constant : Bool) : Reader (List Shape) := do
  let first ← read (.bound captures constant)
  Reader.loop (fun shapes => do
    if !plus then return none
    if !(← Reader.accept "+") then return none
    let more := (← Reader.seesWord) || (← Reader.seesAny ["::", "?", .lifetime, Bracket.round])
      || constant && (← Reader.sees Bracket.square)
    if !more then return none
    return some ((← read (.bound captures constant)) :: shapes)) [first]

def moreBounds : Reader Bool := do
  if !(← Reader.sees "+") then return false
  Reader.repeatedly do
    if !(← Reader.accept "+") then return false
    discard <| read (.bound false false)
    return true
  return true

end AggregateRouting.Source
