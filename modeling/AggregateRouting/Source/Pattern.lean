import AggregateRouting.Source.Attribute
import AggregateRouting.Source.Path
import AggregateRouting.Text.Hex

/-! # Patterns

Reading what a value is matched against. -/

namespace AggregateRouting.Source

variable (read : Grammar)

/-! ### Members and calls -/

def radix : List Char → Nat × List Char
  | '0' :: 'x' :: cs => (16, cs)
  | '0' :: 'o' :: cs => (8, cs)
  | '0' :: 'b' :: cs => (2, cs)
  | cs => (10, cs)

def digit? (radix : Nat) (c : Char) : Option Nat :=
  (Hex.value? c).filter (· < radix)

/-- The number that a literal writes as the number of a field, in 32 bits and with nothing after
it. -/
def fieldNumber (written : List Char) : Except Cause Nat :=
  let (radix, cs) := radix written
  let isDigit (c : Char) := c = '_' || (digit? radix c).isSome
  let n := ((cs.takeWhile isDigit).filterMap (digit? radix)).foldl (radix * · + ·) 0
  if !(cs.dropWhile isDigit).isEmpty then .error .suffixedNumber
  else if n < Nat.pow 2 32 then .ok n else .error .largeNumber

def writeFieldNumber (written : List Char) : Reader Unit := do
  match fieldNumber written with
  | .ok n => Reader.write [.literal (toString n)]
  | .error c => Reader.refuse c

def member : Reader Bool := do
  if ← Reader.sees .identifier then
    Reader.take
    return true
  match (← get).rest with
  | .literal s :: _ =>
    let cs := s.toList
    unless cs.head?.any (·.isDigit) && !cs.contains '.' do Reader.fail .expectedMember
    Reader.skip 1
    writeFieldNumber cs
    return false
  | _ => Reader.fail .expectedMember

def seesCall (f : PathForm) : Reader Bool := do
  return f.plain && (← Reader.sees "!") && !(← Reader.sees "!=")

/-! ### Ranges -/

def rangePoints : Reader Bool := do
  if ← Reader.sees "..." then Reader.fail (.expected ["..="])
  if ← Reader.accept "..=" then return false
  unless ← Reader.accept ".." do Reader.fail (.expected [".."])
  return true

/-- Reads the points of a range in a pattern. Three of them mean that it has its end, which is
written as in other ranges. -/
def patternPoints : Reader Bool := do
  if ← Reader.sees "..." then
    Reader.skip 3
    Reader.write (Token.marks ['.', '.', '='])
    return false
  rangePoints

def rangeEnds : List Expected :=
  [.literal, .identifier, "::", "<", "self", "Self", "super", "crate", "const"]

def patternRangeEnd : Reader Bool := do
  if (← Reader.atEnd) || (← Reader.seesAny ["|", "=", ",", ";", "if"]) then return false
  if (← Reader.sees ":") && !(← Reader.sees "::") then return false
  if ← Reader.accept .literal then return true
  if ← Reader.accept "const" then
    read.block true
    return true
  unless ← Reader.seesAny rangeEnds do Reader.fail (.expected rangeEnds)
  discard <| qualifiedPath read true
  return true

def restOfPatternRange (points : Reader Bool) : Reader Bool := do
  let openEnded ← points
  let ended ← patternRangeEnd read
  unless ended || openEnded do Reader.fail .expectedRangeEnd
  return ended

def afterRangeStart : Reader Shape := do
  if !(← Reader.sees "..") then return .other
  return if ← restOfPatternRange read patternPoints then .other else .openRange

/-! ### Patterns -/

def patternsInside (b : Bracket) : Reader Unit :=
  discard <| Reader.listedInside b do
    if (← read.patterns) = .openRange && b = .square then Reader.refuse .openRangeInSlice

/-- Reads a field in a pattern. Only a plain name or number takes a pattern of its own. -/
def fieldPattern : Reader Unit := do
  let boxed ← Reader.accept "box"
  let byReference ← Reader.accept "ref"
  let changing ← Reader.accept "mut"
  if boxed || byReference || changing then
    discard Reader.name
    return
  let named ← member
  if !named || (← Reader.sees ":") then
    Reader.expect ":"
    discard <| read.patterns

def fieldPatterns : Reader Unit :=
  Reader.inside .curly do
    Reader.repeatedly do
      if ← Reader.atEnd then return false
      discard <| attributes read
      if ← Reader.accept ".." then return false
      fieldPattern read
      if ← Reader.atEnd then return false
      Reader.expect ","
      return true

def pathPattern : Reader Shape := do
  let f ← qualifiedPath read true
  if ← seesCall f then
    Reader.take
    discard Reader.anyGroup
  else if ← Reader.sees Bracket.curly then fieldPatterns read
  else if ← Reader.sees Bracket.round then patternsInside read .round
  else return ← afterRangeStart read
  return .other

/-- Whether a pattern starts with a path, and not with a name for what it matches. -/
def seesPathPattern : Reader Bool := do
  if ← Reader.sees .identifier then
    return ← Reader.seesAny ["::", "!", Bracket.curly, Bracket.round, ".."] 1
  if ← Reader.sees "self" then return ← Reader.sees "::" 1
  Reader.seesAny ["::", "<", "Self", "super", "crate"]

def patternStarts : List Expected :=
  [.identifier, "::", "<", "_", .literal, "ref", "mut", "&", Bracket.round, Bracket.square, "..",
    "const"]

def namePattern : Reader Unit := do
  discard <| Reader.accept "ref"
  discard <| Reader.accept "mut"
  unless ← Reader.accept "self" do discard Reader.name
  if ← Reader.accept "@" then discard <| read .pattern

/-- Reads a pattern without alternatives. One that starts with `box` is written as it is. -/
def pattern : Reader Shape := do
  if ← seesPathPattern then return ← pathPattern read
  if ← Reader.accept "_" then return .other
  if ← Reader.seesAny ["-", .literal, "const"] then
    unless ← patternRangeEnd read do Reader.fail (.expected patternStarts)
    return ← afterRangeStart read
  if (← Reader.sees "..") && !(← Reader.sees "...") then
    return if ← restOfPatternRange read rangePoints then .openRange else .other
  if ← Reader.sees "box" then
    Reader.verbatimIf do
      Reader.take
      discard <| read .pattern
      return ((), true)
  else if ← Reader.seesAny ["ref", "mut", "self", .identifier] then namePattern read
  else if ← Reader.accept "&" then
    discard <| Reader.accept "mut"
    discard <| read .pattern
  else if ← Reader.sees Bracket.round then patternsInside read .round
  else if ← Reader.sees Bracket.square then patternsInside read .square
  else Reader.fail (.expected patternStarts)
  return .other

end AggregateRouting.Source
