import AggregateRouting.Text.Letter

/-! # Names in snake case

`lineItem2Id` becomes `line_item2_id`: an upper-case letter is put in lower case, and an underscore
goes before it where it follows a lower-case letter or a digit. A name without upper-case letters
is left as it is. -/

namespace AggregateRouting.SnakeCase

def endsWord (c : Char) : Bool :=
  Letter.isLower c || c.isDigit

/-- The characters of a name in snake case; `inWord` says whether the character before them can
end a word. -/
def chars : (inWord : Bool) → List Char → List Char
  | _, [] => []
  | inWord, c :: cs =>
    if Letter.isUpper c then
      (if inWord then ['_'] else []) ++ Letter.lowercase c ++ chars false cs
    else c :: chars (endsWord c) cs

def ofName (name : String) : String :=
  String.ofList (chars false name.toList)

theorem chars_cons_upper {inWord : Bool} {c : Char} {cs : List Char} (h : Letter.isUpper c = true) :
    chars inWord (c :: cs)
      = (if inWord then ['_'] else []) ++ Letter.lowercase c ++ chars false cs := by
  simp [chars, h]

theorem chars_cons_other {inWord : Bool} {c : Char} {cs : List Char}
    (h : Letter.isUpper c = false) :
    chars inWord (c :: cs) = c :: chars (endsWord c) cs := by
  simp [chars, h]

@[simp] theorem toList_ofName (name : String) : (ofName name).toList = chars false name.toList := by
  simp [ofName]

end AggregateRouting.SnakeCase
