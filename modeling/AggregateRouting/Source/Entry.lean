import AggregateRouting.Source.Fault

/-! # Entries

What the list of an attribute says: keys, alone or with values, between commas. -/

namespace AggregateRouting

inductive Key
  | name (word : String)
  /-- Words joined by double colons; there is no `first?` if a double colon stands before it. -/
  | path (first? : Option String)
  /-- A path that ends in a double colon, perhaps where the list ends too. -/
  | unfinished (first? : Option String) (atEnd : Bool)
  /-- A double colon where the list ends. -/
  | lone
  | literal
  | other
  deriving DecidableEq

inductive Value
  | text (s : String)
  | other
  | missing
  deriving DecidableEq

/-- A key of an attribute's argument, alone or with a value after an equals sign. -/
structure Entry where
  key : Key
  value : Option Value := none
  more : Bool := false
  deriving DecidableEq

namespace Source

/-- The parts of a list between its commas, and whether a comma follows the last one. Commas in
groups belong to the parts. -/
def splitAtCommas : (depth : Nat) → List Token → List (List Token)
  | _, [] => [[]]
  | 0, .mark ',' _ :: ts => [] :: splitAtCommas 0 ts
  | depth, t :: ts =>
    let depth := match t with
      | .opening _ => depth + 1
      | .closing _ => depth - 1
      | _ => depth
    match splitAtCommas depth ts with
    | [] => [[t]]
    | part :: parts => (t :: part) :: parts

def afterPath : List Token → Bool × List Token
  | .mark ':' true :: .mark ':' _ :: .word _ :: ts => afterPath ts
  | .mark ':' true :: .mark ':' _ :: ts => (true, ts)
  | ts => (false, ts)

def keyFrom (first? : Option String) (single? : Option Key) (last : Bool) (ts : List Token) :
    Key × List Token :=
  match afterPath ts with
  | (true, rest) => (.unfinished first? (last && rest.isEmpty), rest)
  | (false, rest) =>
    if rest.length = ts.length then (single?.getD (.path first?), rest) else (.path first?, rest)

def keyOf (last : Bool) : List Token → Key × List Token
  | .word w :: ts => keyFrom (some w) (some (.name w)) last ts
  | .mark ':' true :: .mark ':' _ :: .word _ :: ts => keyFrom none none last ts
  | .mark ':' true :: .mark ':' _ :: ts =>
    if (Expected.literal.extent? ts).isSome then (.literal, [])
    else if last && ts.isEmpty then (.lone, []) else (.other, [])
  | ts => if (Expected.literal.extent? ts).isSome then (.literal, []) else (.other, [])

def entryOf (last : Bool) (ts : List Token) : Entry :=
  match keyOf last ts with
  | (key, .mark '=' _ :: .quoted s _ :: ts) => ⟨key, some (.text s), !ts.isEmpty⟩
  | (key, .mark '=' _ :: ts) =>
    ⟨key, some (if last && ts.isEmpty then .missing else .other), !ts.isEmpty⟩
  | (key, ts) => ⟨key, none, !ts.isEmpty⟩

/-- The entries of parts between commas. Nothing after the last comma is no entry. -/
def entriesOf : List (List Token) → List Entry
  | [] => []
  | [ts] => if ts.isEmpty then [] else [entryOf true ts]
  | ts :: parts => entryOf false ts :: entriesOf parts

def entries (ts : List Token) : List Entry :=
  entriesOf (splitAtCommas 0 ts)

end Source
end AggregateRouting
