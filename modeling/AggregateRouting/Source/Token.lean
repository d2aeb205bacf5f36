/-! # Tokens

What a source text consists of: words, lifetimes, literals, marks and brackets. A bracket and all up
to its end is one tree of tokens, and so is any other token. -/

namespace AggregateRouting.Source

inductive Bracket
  | round
  | square
  | curly
  deriving DecidableEq

namespace Bracket

def all : List Bracket := [round, square, curly]

def opening : Bracket → Char
  | round => '('
  | square => '['
  | curly => '\x7b'

def closing : Bracket → Char
  | round => ')'
  | square => ']'
  | curly => '\x7d'

end Bracket

inductive Token
  | word (text : String)
  | lifetime (text : String)
  /-- A text between quotes: what it says, and how it is written. -/
  | quoted (content written : String)
  | literal (written : String)
  /-- A punctuation mark, and whether another one follows it without a gap. -/
  | mark (c : Char) (joint : Bool := false)
  | opening (b : Bracket)
  | closing (b : Bracket)
  deriving DecidableEq

namespace Token

def text : Token → String
  | word s | lifetime s => s
  | quoted _ s | literal s => String.ofList (s.toList.filter (· ≠ ' '))
  | mark c _ => c.toString
  | opening b => b.opening.toString
  | closing b => b.closing.toString

def textOf (ts : List Token) : String :=
  String.join (ts.map text)

def marks : List Char → List Token
  | [] => []
  | [c] => [mark c]
  | c :: cs => mark c true :: marks cs

/-- What follows the end of a bracket in which `depth` more brackets are open. -/
def afterEnd : (depth : Nat) → List Token → List Token
  | _, [] => []
  | depth, opening _ :: ts => afterEnd (depth + 1) ts
  | 0, closing _ :: ts => ts
  | depth + 1, closing _ :: ts => afterEnd depth ts
  | depth, _ :: ts => afterEnd depth ts

/-- What follows the first tree, up to which nothing is skipped where a bracket ends. -/
def afterTree : List Token → List Token
  | [] => []
  | opening _ :: ts => afterEnd 0 ts
  | closing b :: ts => closing b :: ts
  | _ :: ts => ts

/-- Whether every bracket ends where it should, if the given ones are open. -/
def balanced : (opened : List Bracket) → List Token → Bool
  | opened, [] => opened.isEmpty
  | opened, opening b :: ts => balanced (b :: opened) ts
  | b :: opened, closing b' :: ts => b == b' && balanced opened ts
  | [], closing _ :: _ => false
  | opened, _ :: ts => balanced opened ts

end Token
end AggregateRouting.Source
