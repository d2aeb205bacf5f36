import AggregateRouting.Declaration
import AggregateRouting.Source.Phrase

/-! # Attributes

Reading attributes and visibilities, which are kept as they are written. -/

namespace AggregateRouting.Source

/-! ### Paths of attributes -/

/-- Words that are no identifiers and may stand in a path. -/
def places : List Expected := ["super", "self", "Self", "crate"]

def placePath : Reader Unit := do
  discard <| Reader.accept "::"
  if !(← Reader.seesAny (.identifier :: places)) then discard Reader.name
  Reader.repeatedly do
    discard Reader.word
    if !(← Reader.accept "::") then return false
    if !(← Reader.seesAny (.identifier :: places)) then Reader.fail .unfinishedPath
    return true

/-! ### Attributes -/

variable (read : Grammar)

/-- Reads what follows an equals sign in an attribute. A literal is only one if nothing follows. -/
def attributeValue : Reader Unit := do
  let alone := (← Reader.ahead do
    Reader.expect .literal
    Reader.atEnd).any (·.1)
  if alone then Reader.expect .literal
  else if (← Reader.sees "#") && (← Reader.sees Bracket.square 1) then
    Reader.fail .attributeInAttribute
  else read.expression

def attributeGroup : Reader Attribute :=
  Reader.inside .square do
    let (_, path) ← Reader.collect do
      unless ← Reader.accept "unsafe" do placePath
    Reader.write path
    let path := Token.textOf path
    if ← Reader.seesAny (Bracket.all.map .group) then
      let (b, group) ← Reader.collect Reader.anyGroup
      Reader.write group
      return ⟨path, .group b (group.drop 1).dropLast⟩
    if (← Reader.sees "=") && !(← Reader.seesAny ["==", "=>"]) then
      Reader.take
      let (_, value) ← Reader.collect (attributeValue read)
      Reader.write value
      return ⟨path, .equals value⟩
    return ⟨path, .nothing⟩

def attributes : Reader (List Attribute) := do
  let found ← Reader.loop (fun found => do
    if ← Reader.accept "#" then return some ((← attributeGroup read) :: found)
    return none) []
  return found.reverse

def innerAttributes : Reader Unit :=
  Reader.repeatedly do
    if (← Reader.sees "#") && (← Reader.sees "!" 1) then
      Reader.take 2
      discard <| attributeGroup read
      return true
    return false

/-! ### Visibilities -/

/-- Reads who can see something, if that is said. Brackets are only a part of it if they hold a
place or `in`. -/
def visibility : Reader (List Token) := do
  let (_, ts) ← Reader.collect do
    if ← Reader.accept "pub" then
      if let .opening .round :: .word w :: ts := (← get).rest then
        if w = "in" then
          Reader.inside .round do
            Reader.expect "in"
            placePath
        else if ["crate", "self", "super"].contains w && ts matches .closing _ :: _ then Reader.tree
  Reader.write ts
  return ts

end AggregateRouting.Source
