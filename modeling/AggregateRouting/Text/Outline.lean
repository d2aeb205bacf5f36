import AggregateRouting.Text.Quoted

/-! # Outlines

How a structured value is written out for a reader: a record as `Name { field: value, … }`, a list
between square brackets, an optional value as `Some(…)` or `None`. The parts are outlines already.
-/

namespace AggregateRouting.Outline

def record (name : String) (fields : List (String × String)) : String :=
  name ++ " \x7b " ++ ", ".intercalate (fields.map fun (field, value) => field ++ ": " ++ value)
    ++ " \x7d"

def list (items : List String) : String :=
  "[" ++ ", ".intercalate items ++ "]"

def call (name : String) (value : String) : String :=
  name ++ "(" ++ value ++ ")"

def optional : Option String → String
  | none => "None"
  | some value => call "Some" value

def flag (b : Bool) : String :=
  if b then "true" else "false"

def optionalText (s : Option String) : String :=
  optional (s.map Quoted.ofText)

end AggregateRouting.Outline
