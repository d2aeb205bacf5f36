import AggregateRouting.Source.Bound

/-! # Types

Reading types: paths, tuples, arrays, references, functions, and bounds in the place of a type. -/

namespace AggregateRouting.Source

variable (read : Grammar)

/-- Reads bounds in the place of a type, of which one has to be a path. -/
def boundsType (plus : Bool) : Reader Unit := do
  let shapes ← bounds read plus false false
  if shapes.all (· = .lifetime) then Reader.refuse (.onlyLifetimes true)

def someType (plus : Bool) : Reader Unit := do
  let shapes ← bounds read plus true true
  if shapes.all fun s => s = .lifetime || s = .capture then Reader.refuse (.onlyLifetimes false)

inductive RoundContent
  | tuple
  | bounds
  | bound
  | type (s : Shape)

def roundContent : Reader RoundContent := do
  if ← Reader.atEnd then return .tuple
  if ← Reader.sees .lifetime then
    boundsType read true
    return .bounds
  if ← Reader.sees "?" then
    discard <| pathBound read false
    return .bound
  let first ← read (.type true)
  if !(← Reader.accept ",") then return .type first
  discard <| Reader.listed Reader.atEnd (read.type)
  return .tuple

/-- Reads a type in round brackets, or bounds of which the first is in brackets. Among several
bounds the first one has no second brackets. -/
def roundType (plus : Bool) : Reader Shape := do
  let (content, ts) ← Reader.collect (Reader.inside .round (roundContent read))
  let several := plus && (← Reader.sees "+")
  match content with
  | .type .bracketedBound => Reader.write (if several then (ts.drop 1).dropLast else ts)
  | _ => Reader.write ts
  match content with
  | .tuple => return .other
  | .bounds => return .group
  | .bound => return if ← moreBounds read then .other else .bracketedBound
  | .type s =>
    if several && [.name, .path, .bound, .bracketedBound].contains s then
      if ← moreBounds read then return .other
    return .group

/-- Reads a parameter of a function type. Only the first one may be `self`. One that can change is
written as it is. -/
def functionTypeParameter (first : Bool) : Reader Unit :=
  Reader.verbatimIf do
    let seesChanging : Reader Bool := do
      return first && (← Reader.sees "mut") && (← Reader.sees "self" 1)
    let changing ← seesChanging
    if changing then Reader.take
    let self := first && (← Reader.sees "self")
    let nameable := self || (← Reader.seesAny [.identifier, "_"])
    let named := nameable && (← Reader.sees ":" 1) && !(← Reader.sees "::" 1)
    if named then Reader.take 2
    if !(self && named) && (← seesChanging) then
      Reader.take 2
      return ((), true)
    if changing && !named then Reader.take else read.type
    return ((), changing)

def seesVariadic : Reader Bool := do
  return (← Reader.sees "...")
    || (← Reader.seesAny [.identifier, "_"]) && (← Reader.sees ":" 1) && (← Reader.sees "..." 2)

def functionType : Reader Unit := do
  discard <| Reader.accept "unsafe"
  if ← Reader.accept "extern" then discard <| Reader.accept .text
  Reader.expect "fn"
  Reader.inside .round do
    discard <| Reader.loop (fun first => do
      if ← Reader.atEnd then return none
      discard <| attributes read
      if ← seesVariadic then
        unless ← Reader.accept "..." do Reader.take 5
        discard <| Reader.accept ","
        return none
      functionTypeParameter read first
      if ← Reader.atEnd then return none
      Reader.expect ","
      return some false) true
  read.result false

/-- Reads a type that is a path or starts with one, after what `for` binds. That is not written
before a call with an exclamation mark. -/
def pathType (plus : Bool) (binder : List Token) : Reader Shape := do
  let (f, ts) ← Reader.collect (typePath read)
  if f.plain && (← Reader.sees "!") && !(← Reader.sees "!=") then
    Reader.write ts
    Reader.take
    discard Reader.anyGroup
    return .other
  Reader.write (binder ++ ts)
  if f.qualified then return .other
  if !binder.isEmpty || plus && (← Reader.sees "+") then
    if !plus then return .bound
    let several ← Reader.sees "+"
    Reader.repeatedly do
      if !(← Reader.accept "+") then return false
      if (← Reader.seesWord) || (← Reader.seesAny ["::", "?", .lifetime, Bracket.round]) then
        discard <| read (.bound false false)
        return true
      return false
    return if several then .other else .bound
  return if f.single then .name else .path

def typeStarts : List Expected :=
  ["for", Bracket.round, "fn", "unsafe", "extern", .identifier, "::", "<", "dyn", Bracket.square,
    "*", "&", "!", "impl", "_", .lifetime]

def boundTypeStarts : List Expected :=
  [.identifier, "fn", "unsafe", "extern", "super", "self", "Self", "crate"]

/-- Reads a type, which may be several bounds if `plus`. -/
def type (plus : Bool) : Reader Shape := do
  let binds ← Reader.sees "for"
  let (_, bound) ← Reader.collect do if binds then binder read
  if binds && !(← Reader.seesAny boundTypeStarts) then Reader.fail (.expected boundTypeStarts)
  if ← Reader.sees Bracket.round then return ← roundType read plus
  if ← Reader.seesAny ["fn", "unsafe", "extern"] then
    Reader.write bound
    functionType read
  else if ← Reader.seesAny (.identifier :: "::" :: "<" :: places) then
    return ← pathType read plus bound
  else if ← Reader.sees "dyn" then
    Reader.verbatimIf do
      Reader.take
      let starred ← Reader.accept "*"
      boundsType read plus
      return ((), starred)
  else if ← Reader.sees Bracket.square then
    Reader.inside .square do
      read.type
      if ← Reader.accept ";" then read.expression
  else if ← Reader.accept "*" then
    Reader.choose [("const", Reader.take), ("mut", Reader.take)]
    read.type false
  else if ← Reader.accept "&" then
    discard <| Reader.accept .lifetime
    discard <| Reader.accept "mut"
    read.type false
  else if ← Reader.accept "impl" then someType read plus
  else if ← Reader.seesAny ["!", "_"] then Reader.take
  else if ← Reader.sees .lifetime then boundsType read true
  else Reader.fail (.expected typeStarts)
  return .other

end AggregateRouting.Source
