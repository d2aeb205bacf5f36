import AggregateRouting.Source.Keyword
import AggregateRouting.Source.Token

/-! # Faults of source texts

What can be found in a text that is none of a declaration, and what had been expected there. -/

namespace AggregateRouting.Source

inductive Expected
  | identifier
  | lifetime
  | literal
  | text
  | written (s : String)
  | group (b : Bracket)
  deriving DecidableEq

namespace Expected

instance : Coe String Expected := ⟨written⟩
instance : Coe Bracket Expected := ⟨group⟩

def name : Expected → String
  | identifier => "identifier"
  | lifetime => "lifetime"
  | literal => "literal"
  | text => "string literal"
  | written s => "`" ++ s ++ "`"
  | group .round => "parentheses"
  | group .square => "square brackets"
  | group .curly => "curly braces"

def isMark : Expected → Bool
  | written s => s.toList.head?.any fun c => !c.isAlpha && c != '_'
  | _ => false

/-- Whether tokens start with the given marks, without gaps between them. -/
def marksBegin : List Char → List Token → Bool
  | [], _ => true
  | [c], .mark c' _ :: _ => c == c'
  | c :: cs, .mark c' true :: ts => c == c' && marksBegin cs ts
  | _, _ => false

/-- How many of the tokens make up what is expected, if they start with it. -/
def extent? (e : Expected) (ts : List Token) : Option Nat :=
  match e, ts with
  | identifier, .word w :: _ => if Keyword.holds w then none else some 1
  | lifetime, .lifetime _ :: _ => some 1
  | literal, .quoted _ _ :: _ | literal, .literal _ :: _ => some 1
  | literal, .word w :: _ => if w = "true" ∨ w = "false" then some 1 else none
  | literal, .mark '-' _ :: .literal s :: _ =>
    if s.toList.head?.any (·.isDigit) then some 2 else none
  | text, .quoted _ _ :: _ => some 1
  | group b, .opening b' :: _ => if b = b' then some 1 else none
  | written s, .word w :: _ => if s = w then some 1 else none
  | written s, ts => if e.isMark ∧ marksBegin s.toList ts then some s.length else none
  | _, _ => none

end Expected

inductive Cause
  | expected (alternatives : List Expected)
  | keyword (word : String)
  | unexpected (inside? : Option Bracket)
  | unfinishedPath
  | expectedGroup
  | expectedExpression
  | expectedLoop
  | expectedMember
  | expectedName
  | expectedRangeEnd
  | expectedSemicolon
  | attributeInAttribute
  | chainedComparison
  | afterCast (what : String)
  | attributesOfRange
  | openRangeInSlice
  | suffixedNumber
  | largeNumber
  | labelledBreak
  | onlyLifetimes (trait : Bool)
  /-- A word that some bounds may have and this one may not. -/
  | boundNotAllowed (written : String)
  | conditionalBinder
  | receiver (second : Bool)
  | parametersOfCondition
  | negativeInherent
  deriving DecidableEq

namespace Cause

def text : Cause → String
  | expected [] => "unexpected token"
  | expected [e] => "expected " ++ e.name
  | expected [e, e'] => "expected " ++ e.name ++ " or " ++ e'.name
  | expected es => "expected one of: " ++ ", ".intercalate (es.map (·.name))
  | keyword word => "expected identifier, found keyword `" ++ word ++ "`"
  | unexpected none => "unexpected token"
  | unexpected (some b) => "unexpected token, expected `" ++ b.closing.toString ++ "`"
  | unfinishedPath => "expected path segment after `::`"
  | expectedGroup => "expected delimiter"
  | expectedExpression => "expected an expression"
  | expectedLoop => "expected loop or block expression"
  | expectedMember => "expected identifier or integer"
  | expectedName => "expected identifier or underscore"
  | expectedRangeEnd => "expected range upper bound"
  | expectedSemicolon => "unexpected token, expected `;`"
  | attributeInAttribute => "unexpected attribute inside of attribute"
  | chainedComparison => "comparison operators cannot be chained"
  | afterCast what => "casts cannot be followed by " ++ what
  | attributesOfRange => "attributes are not allowed on range expressions starting with `..`"
  | openRangeInSlice => "range pattern is not allowed unparenthesized inside slice pattern"
  | suffixedNumber => "expected unsuffixed integer"
  | largeNumber => "number too large to fit in target type"
  | labelledBreak => "parentheses required"
  | onlyLifetimes true => "at least one trait is required for an object type"
  | onlyLifetimes false => "at least one trait must be specified"
  | boundNotAllowed "use<...>" => "`use<...>` precise capturing syntax is not allowed here"
  | boundNotAllowed written => "`" ++ written ++ "` is not allowed here"
  | conditionalBinder =>
    "`for<...>` binder not allowed with `?` trait polarity modifier"
  | receiver true => "unexpected second method receiver"
  | receiver false => "unexpected method receiver"
  | parametersOfCondition =>
    "generic parameters on `where` clauses are reserved for future use"
  | negativeInherent => "inherent impls cannot be negative"

end Cause

/-- A cause, and whether it is that the text or the group ends where it does. -/
structure Fault where
  cause : Cause
  atEnd : Bool := false
  deriving DecidableEq

def Fault.message (f : Fault) : String :=
  if f.atEnd then
    if f.cause = .expected [] then "unexpected end of input"
    else "unexpected end of input, " ++ f.cause.text
  else f.cause.text

end AggregateRouting.Source
