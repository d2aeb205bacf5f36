import AggregateRouting.Source.Generics

/-! # Structures

Reading the fields of a structure, and the structure from its name on. -/

namespace AggregateRouting.Source

variable (read : Grammar)

def writtenType : Reader (List Token) := do
  let (_, ts) ← Reader.collect read.type
  Reader.write ts
  return ts

/-- Reads fields in curly brackets in the place of the type of a field without a name, each with the
given reader. They are written as they are. -/
def embeddedFields (field : Reader Unit) : Reader (List Token) := do
  let (_, ts) ← Reader.collect <| Reader.verbatimIf do
    Reader.take
    discard <| Reader.listedInside .curly field
    return ((), true)
  Reader.write ts
  return ts

/-- Reads a named field. A field may go without a name if it holds other fields. -/
def namedField : Reader (Field (List Token)) := do
  let attributes ← attributes read
  let visibility ← visibility
  let unnamed ← Reader.sees "_"
  let name ← if unnamed then Reader.word else Reader.name
  Reader.expect ":"
  let embeds := unnamed
    && ((← Reader.sees "struct") || (← Reader.sees "union") && (← Reader.sees Bracket.curly 1))
  let type ← if embeds then embeddedFields (discard <| read .field) else writtenType read
  return { visibility := visibility, name := name, type := type, attributes := attributes }

def unnamedField : Reader (List Token) := do
  discard <| attributes read
  discard visibility
  writtenType read

def namedFields : Reader (Fields (List Token)) :=
  .named <$> Reader.listedInside .curly (namedField read)

def unnamedFields : Reader (Fields (List Token)) :=
  .tuple <$> Reader.listedInside .round (unnamedField read)

/-- Reads the fields of a structure, and the condition before or after them. Only round brackets are
followed by a condition. -/
def structureBody : Reader (Option (List Token) × Fields (List Token)) := do
  let unit : Reader (Fields (List Token)) := do
    Reader.take
    return .unit
  let conditioned : Reader (Option (List Token) × Fields (List Token)) := do
    let condition ← condition read
    return (condition, ← Reader.choose [(Bracket.curly, namedFields read), (";", unit)])
  let unnamed : Reader (Option (List Token) × Fields (List Token)) := do
    let fields ← unnamedFields read
    if !(← Reader.seesAny ["where", ";"]) then Reader.fail (.expected ["where", ";"])
    let condition ← condition read
    Reader.choose [(";", do Reader.take; return (condition, fields))]
  Reader.choose
    [("where", conditioned), (Bracket.round, unnamed),
      (Bracket.curly, return (none, ← namedFields read)), (";", return (none, ← unit))]

def restOfStructure (attributes : List Attribute) (visibility : List Token) :
    Reader (Struct (List Token)) := do
  let name ← Reader.name
  let parameters ← parameters read
  let (condition, fields) ← structureBody read
  return {
    visibility := visibility
    name := name
    attributes := attributes
    parameters := parameters
    condition := condition
    fields := fields }

end AggregateRouting.Source
