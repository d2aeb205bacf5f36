import AggregateRouting.Text.Invisible

/-! # Quoted text

A text between double quotes. A quote and a backslash get a backslash before them; a line feed, a
carriage return, a tab and the null character have letters of their own; any other character
without a glyph is written by its code point. -/

namespace AggregateRouting.Quoted

def escape (c : Char) : List Char :=
  if c = '"' then ['\\', '"']
  else if c = '\\' then ['\\', '\\']
  else if c = '\n' then ['\\', 'n']
  else if c = '\r' then ['\\', 'r']
  else if c = '\t' then ['\\', 't']
  else if c = '\x00' then ['\\', '0']
  else if Invisible.holds c then ['\\', 'u', '\x7b'] ++ Nat.toDigits 16 c.toNat ++ ['\x7d']
  else [c]

def ofText (s : String) : String :=
  String.ofList ('"' :: s.toList.flatMap escape ++ ['"'])

end AggregateRouting.Quoted
