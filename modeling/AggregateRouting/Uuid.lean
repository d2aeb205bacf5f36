import AggregateRouting.Text.Hex

/-! # Universally unique identifiers

A 128-bit number, written as 32 lower-case hexadecimal digits in groups of 8, 4, 4, 4 and 12. It is
read in either letter case: as written, without hyphens, in braces, or as a `urn:uuid:` name. -/

namespace AggregateRouting

structure Uuid where
  bits : BitVec 128
  deriving DecidableEq

namespace Uuid

def nil : Uuid := ⟨0⟩

def text (u : Uuid) : String :=
  let digits := Hex.digits 32 u.bits.toNat
  let group (start length : Nat) := (digits.drop start).take length
  String.ofList (['-'].intercalate [group 0 8, group 8 4, group 12 4, group 16 4, group 20 12])

def ofDigits? (cs : List Char) : Option Uuid :=
  if cs.length = 32 then (Hex.number? cs).map fun n => ⟨BitVec.ofNat 128 n⟩ else none

def ofHyphenated? (cs : List Char) : Option Uuid :=
  if cs.length = 36 ∧ [8, 13, 18, 23].all (cs[·]? == some '-') then
    ofDigits? (cs.filter (· != '-'))
  else none

/-- Reads any of the four written forms. -/
def ofText? (s : String) : Option Uuid :=
  match s.toList with
  | '{' :: cs => if cs.getLast? = some '}' then ofHyphenated? cs.dropLast else none
  | 'u' :: 'r' :: 'n' :: ':' :: 'u' :: 'u' :: 'i' :: 'd' :: ':' :: cs => ofHyphenated? cs
  | cs => if cs.length = 32 then ofDigits? cs else ofHyphenated? cs

end Uuid
end AggregateRouting
