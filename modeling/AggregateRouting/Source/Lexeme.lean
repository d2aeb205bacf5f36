import AggregateRouting.Source.Token
import AggregateRouting.Text.Blank
import AggregateRouting.Text.Hex
import AggregateRouting.Text.Quoted

/-! # Lexemes

How the characters of a source text make up its tokens. White space and comments separate tokens and
are none themselves, but a documentation comment stands for an attribute that holds its text. -/

namespace AggregateRouting.Source

inductive Lexeme
  | gap
  | word
  | lifetime
  | quoted (raw : Bool)
  | literal
  | mark
  | opening (b : Bracket)
  | closing (b : Bracket)
  /-- A documentation comment with so many characters after its text; it may be about what is
  around it. -/
  | documentation (after : Nat) (inner : Bool)

namespace Lexeme

/-- Whether a character separates tokens. Marks that only set the direction of writing do. -/
def separates (c : Char) : Bool :=
  Blank.holds c || c == '\u200e' || c == '\u200f'

/-- Whether a character may stand in a word. Beyond ASCII any character may that does not separate
tokens. -/
def inWord (c : Char) : Bool :=
  c.isAlphanum || c == '_' || 0x80 ≤ c.toNat && !separates c

def startsWord (c : Char) : Bool :=
  inWord c && !c.isDigit

def isMark (c : Char) : Bool :=
  "~!@#$%^&*-=+|;:,<.>/?".toList.contains c

/-- Whether characters start like a literal with a letter before its quotes, and so no word. -/
def startsQuoted (cs : List Char) : Bool :=
  ["r\"", "r#\"", "r##", "b\"", "b'", "br\"", "br#", "c\"", "cr\"", "cr#"].any
    (·.toList.isPrefixOf cs)

/-! Where a lexeme ends: each of the following counts characters that belong to it, if it has an
end. -/

def wordExtent (cs : List Char) : Nat :=
  (cs.takeWhile inWord).length

def suffixExtent (cs : List Char) : Nat :=
  if cs.head?.any startsWord then wordExtent cs else 0

def withSuffix (n : Nat) (cs : List Char) : Nat :=
  n + suffixExtent (cs.drop n)

def quotedExtent? (quote : Char) : List Char → Option Nat
  | [] => none
  | '\\' :: _ :: cs => (quotedExtent? quote cs).map (2 + ·)
  | c :: cs => if c = quote then some 1 else (quotedExtent? quote cs).map (1 + ·)

def characterExtent? : List Char → Option Nat
  | '\\' :: cs => (quotedExtent? '\'' ('\\' :: cs))
  | _ :: '\'' :: _ => some 2
  | _ => none

def rawLength? (hashes : Nat) : List Char → Option Nat
  | [] => none
  | c :: cs =>
    if c = '"' ∧ cs.take hashes = List.replicate hashes '#' then some 0
    else (rawLength? hashes cs).map (1 + ·)

def rawExtent? (cs : List Char) : Option Nat :=
  let hashes := (cs.takeWhile (· == '#')).length
  match cs.drop hashes with
  | '"' :: rest => (rawLength? hashes rest).map (2 * (hashes + 1) + ·)
  | _ => none

def digitsExtent (cs : List Char) : Nat :=
  (cs.takeWhile fun c => c.isDigit || c == '_').length

def exponentExtent : List Char → Nat
  | [] => 0
  | e :: cs =>
    let sign := if cs.head?.any fun c => c == '+' || c == '-' then 1 else 0
    let extent := digitsExtent (cs.drop sign)
    let digits := (cs.drop sign).take extent
    if (e = 'e' ∨ e = 'E') ∧ digits.any (·.isDigit) then 1 + sign + extent else 0

/-- A point and the digits after it. Before a word or another point it is none of the number's. -/
def fractionExtent : List Char → Nat
  | '.' :: cs => if cs.head?.any fun c => c == '.' || startsWord c then 0 else 1 + digitsExtent cs
  | _ => 0

/-- The rest of a number after its first digit. A number with a radix is as long as its word. -/
def numberExtent (first : Char) (cs : List Char) : Nat :=
  if first = '0' ∧ (cs.head?.any fun c => c == 'x' || c == 'o' || c == 'b') then wordExtent cs
  else
    let whole := digitsExtent cs
    let fraction := whole + fractionExtent (cs.drop whole)
    withSuffix (fraction + exponentExtent (cs.drop fraction)) cs

/-- Up to and with the end of a comment in which `depth` beginnings have not met their end. -/
def commentExtent? : (depth : Nat) → List Char → Option Nat
  | 0, _ => some 0
  | _, [] => none
  | depth + 1, '*' :: '/' :: cs => (commentExtent? depth cs).map (2 + ·)
  | depth + 1, '/' :: '*' :: cs => (commentExtent? (depth + 2) cs).map (2 + ·)
  | depth + 1, _ :: cs => (commentExtent? (depth + 1) cs).map (1 + ·)

def lineExtent : List Char → Nat
  | [] | '\n' :: _ | '\r' :: '\n' :: _ => 0
  | _ :: cs => 1 + lineExtent cs

/-! What a text consists of: a lexeme with the count of characters in it after its first. -/

/-- The kind of the comment that starts with a slash and the given characters. A third mark of the
same kind makes it a documentation comment, but a fourth does not. -/
def commentKind : List Char → Lexeme
  | '/' :: '!' :: _ => documentation 0 true
  | '/' :: '/' :: '/' :: _ => gap
  | '/' :: '/' :: _ => documentation 0 false
  | '*' :: '!' :: _ => documentation 2 true
  | '*' :: '*' :: '*' :: _ | '*' :: '*' :: '/' :: _ => gap
  | '*' :: '*' :: _ => documentation 2 false
  | _ => gap

def comment? (cs : List Char) : Option (Lexeme × Nat) :=
  let extent :=
    if cs.head? = some '/' then some (lineExtent (cs.drop 1)) else commentExtent? 1 (cs.drop 1)
  extent.map fun n => (commentKind cs, 1 + n)

def word? : List Char → Option Nat
  | 'r' :: '#' :: c :: cs => if startsWord c then some (2 + wordExtent cs) else none
  | c :: cs => if startsWord c then some (wordExtent cs) else none
  | [] => none

def lettered? : Char → List Char → Option (Lexeme × Nat)
  | 'r', cs => (rawExtent? cs).map fun n => (quoted true, withSuffix n cs)
  | _, '\'' :: cs => (characterExtent? cs).map fun n => (literal, 1 + withSuffix n cs)
  | _, '"' :: cs => (quotedExtent? '"' cs).map fun n => (literal, 1 + withSuffix n cs)
  | _, _ :: cs => (rawExtent? cs).map fun n => (literal, 1 + withSuffix n cs)
  | _, [] => none

/-- The lexeme that starts with a single quote: a character before another one, or a word. The quote
stands alone if what starts like a word is a literal. -/
def afterQuote? (cs : List Char) : Option (Lexeme × Nat) :=
  match characterExtent? cs, word? cs with
  | some n, _ => some (literal, withSuffix n cs)
  | none, none => none
  | none, some n =>
    let next := (cs.drop (1 + n)).head?
    let raw := cs.take 2 = ['r', '#']
    if next = some '\'' ∨ next = some '#' ∧ !raw then none
    else if startsQuoted cs then some (mark, 0)
    else some (lifetime, 1 + n)

/-- The lexeme that starts with a character, and how many of the characters after it belong to
it. -/
def start? (c : Char) (cs : List Char) : Option (Lexeme × Nat) :=
  if separates c then some (gap, 0)
  else if c.isDigit then some (literal, numberExtent c cs)
  else if startsQuoted (c :: cs) then lettered? c cs
  else if startsWord c then (word? (c :: cs)).map (word, ·)
  else if c = '\'' then afterQuote? cs
  else if c = '"' then (quotedExtent? '"' cs).map fun n => (quoted false, withSuffix n cs)
  else match Bracket.all.find? (·.opening == c), Bracket.all.find? (·.closing == c) with
    | some b, _ => some (opening b, 0)
    | none, some b => some (closing b, 0)
    | none, none =>
      if c = '/' ∧ (cs.head? = some '/' ∨ cs.head? = some '*') then comment? cs
      else if isMark c then some (mark, 0) else none

/-! What the lexemes stand for. -/

inductive Escape
  | none
  | code (n : Nat)
  | blanks

def escaped (c : Char) : Char :=
  if c = 'n' then '\n' else if c = 'r' then '\r' else if c = 't' then '\t'
  else if c = '0' then '\x00' else c

def unescape : Escape → List Char → List Char
  | _, [] => []
  | .code n, c :: cs =>
    if c = '\x7d' then Char.ofNat n :: unescape .none cs
    else match Hex.value? c with
      | some d => unescape (.code (16 * n + d)) cs
      | none => unescape (.code n) cs
  | _, '\\' :: 'u' :: '\x7b' :: cs => unescape (.code 0) cs
  | _, '\\' :: 'x' :: a :: b :: cs =>
    Char.ofNat ((Hex.number? [a, b]).getD 0) :: unescape .none cs
  | _, '\\' :: c :: cs =>
    if c = '\n' ∨ c = '\r' then unescape .blanks cs else escaped c :: unescape .none cs
  | .blanks, c :: cs =>
    if c.isWhitespace then unescape .blanks cs
    else if c = '"' then [] else c :: unescape .none cs
  | .none, '\r' :: '\n' :: cs => '\n' :: unescape .none cs
  | .none, c :: cs => if c = '"' then [] else c :: unescape .none cs

def content (raw : Bool) (cs : List Char) : List Char :=
  if raw then
    let hashes := ((cs.drop 1).takeWhile (· == '#')).length
    let rest := cs.drop (hashes + 2)
    rest.take ((rawLength? hashes rest).getD 0)
  else unescape .none (cs.drop 1)

/-- The text of a documentation comment as it stands between quotes. The null character is written
by its code before a digit that would seem to go on with it. -/
def quoteDocumentation : List Char → List Char
  | [] => []
  | c :: cs =>
    let octal := cs.head?.any fun d => '0' ≤ d && d ≤ '7'
    (if c = '\x00' ∧ octal then ['\\', 'x', '0', '0'] else Quoted.escape c)
      ++ quoteDocumentation cs

def documentationTokens (inner : Bool) (cs : List Char) : List Token :=
  let written := String.ofList ('"' :: quoteDocumentation cs ++ ['"'])
  [.mark '#'] ++ (if inner then [.mark '!'] else [])
    ++ [.opening .square, .word "doc", .mark '=', .quoted (String.ofList cs) written,
      .closing .square]

def marksFollow : List Char → Bool
  | '/' :: '/' :: _ | '/' :: '*' :: _ => false
  | c :: _ => isMark c || c == '\''
  | [] => false

def tokens (l : Lexeme) (cs rest : List Char) : List Token :=
  match l with
  | gap => []
  | word => [.word (String.ofList cs)]
  | lifetime => [.lifetime (String.ofList cs)]
  | quoted raw => [.quoted (String.ofList (content raw cs)) (String.ofList cs)]
  | literal => [.literal (String.ofList cs)]
  | mark => (cs.take 1).map (.mark · (marksFollow rest))
  | opening b => [.opening b]
  | closing b => [.closing b]
  | documentation after inner =>
    documentationTokens inner ((cs.drop 3).take (cs.length - 3 - after))

end Lexeme

namespace Token

/-- The tokens of the characters after the first `skipped` ones, if those make up any. -/
def ofChars? : (skipped : Nat) → List Char → Option (List Token)
  | _, [] => some []
  | skipped + 1, _ :: cs => ofChars? skipped cs
  | 0, c :: cs => do
    let (l, extent) ← Lexeme.start? c cs
    return l.tokens (c :: cs.take extent) (cs.drop extent) ++ (← ofChars? extent cs)

/-- The tokens of a text, if it has no other characters and its brackets match. A text may start
with a mark for the order of its bytes. -/
def ofText? (s : String) : Option (List Token) :=
  let marked := s.toList.head? = some '\ufeff'
  (ofChars? (if marked then 1 else 0) s.toList).filter (balanced [])

end Token
end AggregateRouting.Source
