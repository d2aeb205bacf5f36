import AggregateRouting.Source.Statement

/-! # The grammar

All phrases put together. A phrase within another one has at least as many tokens less as the other
has more around it, so how deeply they are nested is bounded by the length of a text. -/

namespace AggregateRouting.Source

/-- Reads a phrase of the given kind, if readers of those in it are given. -/
def Phrase.read (read : Grammar) : Phrase → Reader Shape
  | .type plus => Source.type read plus
  | .bound captures constant => Source.bound read captures constant
  | .pattern => Source.pattern read
  | .expression structs => Source.expression read structs
  | .operand structs => Source.operand read structs
  | .operation structs least left => Source.operation read structs least left
  | .arms => do Source.arms read; return .other
  | .block attributes => do Source.block read attributes; return .other
  | .item => do discard <| Source.item read; return .other
  | .field => do discard <| Source.namedField read; return .other
  | .useTree rooted => do Source.useTree read rooted; return .other

/-- Readers of phrases that are nested up to a depth. -/
def Grammar.ofDepth : (depth : Nat) → Grammar
  | 0, _ => Reader.fail (.expected [])
  | depth + 1, p => p.read (ofDepth depth)

/-- Reads a whole text that is an item with its attributes. -/
def readItem (ts : List Token) : Except Fault (Item (List Token)) :=
  let read := Grammar.ofDepth (8 * ts.length + 8)
  Reader.runOn (item read) ts

end AggregateRouting.Source
