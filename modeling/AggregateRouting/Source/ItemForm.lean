import AggregateRouting.Source.Function
import AggregateRouting.Source.Structure

/-! # Items

Reading items with their attributes. A structure is kept; of others only the text is. Some forms
that an item may have only in a text, and not in a program, are written as they are. -/

namespace AggregateRouting.Source

variable (read : Grammar)

/-- Words for what may be defined by a path and an exclamation mark. -/
def pathStarts : List Expected := [.identifier, "self", "super", "crate", "::"]

/-! ### Parts of items -/

/-- Reads bounds after a colon, up to one of the given ends. The colon is dropped if there are
none. Says whether there was a colon. -/
def boundsBefore (ends : List Expected) : Reader Bool := do
  let found ← Reader.sees ":"
  discard <| afterColon do
    Reader.repeatedly do
      if ← Reader.seesAny ends then return false
      discard <| read (.bound false true)
      if ← Reader.seesAny ends then return false
      Reader.expect "+"
      return true
  return found

def itemsInside (item : Reader Unit) : Reader Unit :=
  Reader.inside .curly do
    innerAttributes read
    Reader.repeatedly do
      if ← Reader.atEnd then return false
      item
      return true

def call (names : Bool) : Reader Unit := do
  placePath
  Reader.expect "!"
  if names then
    if ← Reader.seesAny [.identifier, "try"] then Reader.take
  if (← Reader.anyGroup) ≠ .curly then Reader.expect ";"

/-- Reads a constant from its name on, and says whether it has neither parameters nor a condition,
and whether it has a value. -/
def constant : Reader (Bool × Bool) := do
  unless ← Reader.seesAny [.identifier, "_"] do Reader.fail (.expected [.identifier, "_"])
  Reader.take
  let plain := !(← Reader.sees "<")
  discard <| parameters read
  Reader.expect ":"
  read.type
  let defined ← Reader.accept "="
  if defined then read.expression
  let plain := plain && !(← Reader.sees "where")
  discard <| condition read
  Reader.expect ";"
  return (plain, defined)

/-- Reads the name of a type and what it stands for, with a condition on the given sides of the
equals sign. Says whether it is bounded, and whether it stands for something. -/
def typeName (before after : Bool) : Reader (Bool × Bool) := do
  discard Reader.name
  discard <| parameters read
  let bounded ← boundsBefore read ["where", "=", ";"]
  let conditioned := before && (← Reader.sees "where")
  if conditioned then discard <| condition read
  let defined ← Reader.accept "="
  if defined then read.type
  if after && !conditioned then discard <| condition read
  Reader.expect ";"
  return (bounded, defined)

/-! ### Members of traits and implementations -/

def associated (inTrait : Bool) : Reader Unit :=
  Reader.verbatimIf do
    discard <| attributes read
    let seen := !(← visibility).isEmpty
    let byDefault := (← Reader.sees "default") && (inTrait || !(← Reader.sees "!" 1))
    if byDefault then Reader.take
    let marked := inTrait && (seen || byDefault)
    if ← seesFunctionHead then
      discard <| functionHead read
      let closed ← Reader.sees ";"
      if inTrait then Reader.choose [(Bracket.curly, read.block true), (";", Reader.take)]
      else unless ← Reader.accept ";" do read.block true
      return ((), marked || !inTrait && closed)
    if ← Reader.accept "const" then
      let (plain, defined) ← constant read
      return ((), marked || !plain || !inTrait && !defined)
    if ← Reader.accept "type" then
      let (bounded, defined) ← typeName read false true
      return ((), marked || !inTrait && (bounded || !defined))
    let starts : List Expected := ["fn", "const", "type"]
    let starts := if inTrait || byDefault then starts else "default" :: starts
    if seen || byDefault then Reader.fail (.expected starts)
    if !(← Reader.seesAny pathStarts) then Reader.fail (.expected (starts ++ pathStarts))
    call false
    return ((), false)

def restOfTrait : Reader Unit := do
  discard <| boundsBefore read ["where", Bracket.curly]
  discard <| condition read
  itemsInside read (associated read true)

/-- Reads a trait from its name on. It may also stand for bounds. -/
def restOfTraitOrBounds : Reader Unit := do
  discard Reader.name
  discard <| parameters read
  let starts : List Expected := [Bracket.curly, ":", "where", "="]
  if !(← Reader.seesAny starts) then Reader.fail (.expected starts)
  if ← Reader.accept "=" then
    Reader.repeatedly do
      if ← Reader.seesAny ["where", ";"] then return false
      discard <| read (.bound false true)
      if ← Reader.seesAny ["where", ";"] then return false
      Reader.expect "+"
      return true
    discard <| condition read
    Reader.expect ";"
  else restOfTrait read

/-- Reads an implementation, and says whether it has a form that is kept as it is. -/
def implementation : Reader Bool := do
  discard <| Reader.accept "default"
  discard <| Reader.accept "unsafe"
  Reader.expect "impl"
  if ← seesParameters then discard <| parameters read
  let always ← Reader.sees "const"
  let perhaps := (← Reader.sees "?") && (← Reader.sees "const" 1)
  if perhaps then Reader.take 2
  if always then Reader.take
  let negative := (← Reader.sees "!") && !(← Reader.sees Bracket.curly 1)
  if negative then Reader.take
  let implemented ← read (.type true)
  let ofTrait ← Reader.accept "for"
  if ofTrait then read.type
  else if negative then Reader.refuse .negativeInherent
  discard <| condition read
  itemsInside read (associated read false)
  let isPath := implemented = .name || implemented = .path
  return always || perhaps || ofTrait && !isPath

/-! ### Other items -/

def variant : Reader Unit := do
  discard <| attributes read
  discard <| Reader.collect visibility
  discard Reader.name
  if ← Reader.sees Bracket.curly then discard <| namedFields read
  else if ← Reader.sees Bracket.round then discard <| unnamedFields read
  if ← Reader.accept "=" then read.expression

def restOfEnumeration : Reader Unit := do
  discard Reader.name
  discard <| parameters read
  discard <| condition read
  discard <| Reader.listedInside .curly (variant read)

def restOfUnion : Reader Unit := do
  discard Reader.name
  discard <| parameters read
  discard <| condition read
  discard <| namedFields read

def newName : Reader Unit := do
  unless ← Reader.seesAny [.identifier, "_"] do Reader.fail .expectedName
  Reader.take

/-- Reads a tree of names that are taken from elsewhere. Only where nothing comes before it may the
parts of a group start with a double colon. -/
def useTree (rooted : Bool) : Reader Unit := do
  let starts : List Expected := [.identifier, "self", "super", "crate", "try"]
  if ← Reader.seesAny starts then
    Reader.take
    if ← Reader.accept "::" then discard <| read (.useTree false)
    else if ← Reader.accept "as" then newName
  else if ← Reader.accept "*" then return
  else if ← Reader.sees Bracket.curly then
    discard <| Reader.listedInside .curly do
      let root ← if rooted then Reader.accept "::" else pure false
      discard <| read (.useTree (rooted && !root))
  else
    let others : List Expected := ["*", Bracket.curly]
    Reader.fail (.expected (starts ++ others))

/-- Reads a variable of a module from its `static` on, and says whether it has a form that is kept
as it is. -/
def storage : Reader Bool := do
  Reader.expect "static"
  discard <| Reader.accept "mut"
  discard Reader.name
  if ← Reader.accept "=" then
    read.expression
    Reader.expect ";"
    return true
  Reader.expect ":"
  read.type
  if ← Reader.accept ";" then return true
  Reader.expect "="
  read.expression
  Reader.expect ";"
  return false

def foreignStorage : Reader Bool := do
  let marked ← Reader.seesAny ["unsafe", "safe"]
  if marked then Reader.take
  Reader.expect "static"
  discard <| Reader.accept "mut"
  discard Reader.name
  Reader.expect ":"
  read.type
  let defined ← Reader.accept "="
  if defined then read.expression
  Reader.expect ";"
  return marked || defined

def foreignItem : Reader Unit :=
  Reader.verbatimIf do
    discard <| attributes read
    let seen := !(← visibility).isEmpty
    if ← seesFunctionHead true then
      let safe ← functionHead read true
      if ← Reader.sees Bracket.curly then
        read.block true
        return ((), true)
      Reader.expect ";"
      return ((), safe)
    let marked := (← Reader.seesAny ["unsafe", "safe"]) && (← Reader.sees "static" 1)
    if marked || (← Reader.sees "static") then return ((), ← foreignStorage read)
    if ← Reader.accept "type" then
      let (bounded, defined) ← typeName read true true
      return ((), bounded || defined)
    let starts : List Expected := ["fn", "static", "type"]
    if seen then Reader.fail (.expected starts)
    if !(← Reader.seesAny pathStarts) then Reader.fail (.expected (starts ++ pathStarts))
    call false
    return ((), false)

def restOfLibrary : Reader Unit := do
  unless ← Reader.accept "self" do discard Reader.name
  if ← Reader.accept "as" then
    unless ← Reader.accept "_" do discard Reader.name
  Reader.expect ";"

def foreignItems (seen : Bool) : Reader Unit := do
  if seen then Reader.refuse (.expected ["extern"])
  Reader.expect "extern"
  discard <| Reader.accept .text
  itemsInside read (foreignItem read)

def foreign (seen : Bool) : Reader Unit := do
  let named ← Reader.sees .text 1
  if ← Reader.sees "crate" 1 then
    Reader.take 2
    restOfLibrary
  else if ← Reader.sees Bracket.curly (if named then 2 else 1) then foreignItems read seen
  else
    Reader.take (if named then 2 else 1)
    Reader.fail (.expected (if named then [Bracket.curly] else ["crate", Bracket.curly, .text]))

def restOfModule : Reader Unit := do
  unless ← Reader.accept "try" do discard Reader.name
  Reader.choose
    [(";", Reader.take),
      (Bracket.curly, itemsInside read (discard <| read .item))]

/-! ### Items -/

def itemStarts : List Expected :=
  ["fn", "extern", "use", "static", "const", "unsafe", "mod", "type", "struct", "enum", "union",
    "trait", "auto", "impl", "default", "macro"]

/-- Reads an item that is no structure, and says whether it has a form that is kept as it is. -/
def otherItem (seen : Bool) : Reader Bool := do
  let isAuto (after : Nat) := do
    return (← Reader.sees "auto" after) && (← Reader.sees "trait" (after + 1))
  let isUnsafe ← Reader.sees "unsafe"
  if ← seesFunctionHead then
    discard <| functionHead read
    if ← Reader.accept ";" then return true
    read.block true
  else if ← Reader.sees "extern" then foreign read seen
  else if ← Reader.accept "use" then
    let root ← Reader.accept "::"
    discard <| read (.useTree !root)
    Reader.expect ";"
  else if ← Reader.sees "static" then return ← storage read
  else if ← Reader.accept "const" then
    let (plain, defined) ← constant read
    return !(plain && defined)
  else if isUnsafe && (← Reader.sees "extern" 1) then
    Reader.take
    foreignItems read seen
  else if isUnsafe && (← Reader.sees "mod" 1) then
    Reader.take 2
    restOfModule read
  else if isUnsafe && (← Reader.sees "impl" 1) then
    return (← implementation read) || seen
  else if isUnsafe && ((← Reader.sees "trait" 1) || (← isAuto 1)) || (← isAuto 0) then
    discard <| Reader.accept "unsafe"
    discard <| Reader.accept "auto"
    Reader.expect "trait"
    discard Reader.name
    discard <| parameters read
    restOfTrait read
  else if ← Reader.accept "unsafe" then
    Reader.fail (.expected ["trait", "auto", "impl", "extern", "mod"])
  else if ← Reader.accept "mod" then restOfModule read
  else if ← Reader.accept "type" then
    let (bounded, defined) ← typeName read true false
    return bounded || !defined
  else if ← Reader.accept "enum" then restOfEnumeration read
  else if (← Reader.sees "union") && (← Reader.sees .identifier 1) then
    Reader.take
    restOfUnion read
  else if ← Reader.accept "trait" then restOfTraitOrBounds read
  else if (← Reader.sees "impl") || (← Reader.sees "default") && !(← Reader.sees "!" 1) then
    return (← implementation read) || seen
  else if ← Reader.accept "macro" then
    discard Reader.name
    let applied ← Reader.sees Bracket.round
    if applied then Reader.tree
    unless ← Reader.sees Bracket.curly do
      Reader.fail (.expected (if applied then [Bracket.curly] else [Bracket.round, Bracket.curly]))
    Reader.tree
  else if seen then Reader.fail (.expected itemStarts)
  else if ← Reader.seesAny pathStarts then call true
  else Reader.fail (.expected (itemStarts ++ pathStarts))
  return false

def item : Reader (Item (List Token)) :=
  Reader.verbatimIf do
    let attributes ← attributes read
    let visibility ← visibility
    if ← Reader.accept "struct" then
      return (.struct (← restOfStructure read attributes visibility), false)
    return (.other, ← otherItem read !visibility.isEmpty)

end AggregateRouting.Source
