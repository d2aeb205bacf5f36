import AggregateRouting.Declaration
import AggregateRouting.Declaration.Fault
import AggregateRouting.Source.Entry

/-! # Property tables

The properties that a structure declares. Each named field is one, under its own name or under the
one that its `property` attribute gives it, unless that attribute leaves the field out. -/

namespace AggregateRouting

/-- The text that an entry has to give, and nothing else. -/
def Entry.text (e : Entry) : Except DeclarationFault String :=
  match e.value with
  | none => .error .expectedEquals
  | some .missing => .error .missingText
  | some .other => .error .expectedText
  | some (.text s) => if e.more then .error .expectedComma else .ok s

structure FieldOptions where
  skip : Bool := false
  rename : Option String := none

namespace FieldOptions

def read (o : FieldOptions) (e : Entry) : Except DeclarationFault FieldOptions :=
  match e.key with
  | .literal => .error .literalKey
  | .other => .error .unexpectedKey
  | .lone => .error .missingKey
  | .unfinished _ atEnd => .error (.unfinishedKey atEnd)
  | .name "skip" =>
    if e.value.isSome || e.more then .error .expectedComma else .ok { o with skip := true }
  | .name "rename" =>
    match o.rename with
    | some _ => .error (.repeatedKey "rename")
    | none => return { o with rename := some (← e.text) }
  | .name _ | .path _ => .error .unknownPropertyKey

def readAttribute (o : FieldOptions) (a : Attribute) : Except DeclarationFault FieldOptions :=
  match a.argument with
  | .nothing => .error .bareAttribute
  | .equals _ => .error .expectedParentheses
  | .group _ ts => (Source.entries ts).foldlM read o

end FieldOptions

def Attribute.isProperty (a : Attribute) : Bool :=
  a.path == "property"

namespace Field
variable {τ : Type}

def options (f : Field τ) : Except DeclarationFault FieldOptions :=
  (f.attributes.filter (·.isProperty)).foldlM FieldOptions.readAttribute {}

def stripped (f : Field τ) : Field τ :=
  { f with attributes := f.attributes.filter (!·.isProperty) }

end Field

structure PropertyEntry where
  property : String
  field : String
  deriving DecidableEq

/-- The properties of a structure in the order of its fields, and the fields that they read: two
lists side by side. -/
structure PropertyTable where
  names : List String := []
  fields : List String := []
  deriving DecidableEq

namespace PropertyTable

def entries (t : PropertyTable) : List PropertyEntry :=
  (t.names.zip t.fields).map fun (property, field) => ⟨property, field⟩

/-- The field that a property reads: that of the first entry with its name. -/
def fieldOf? (t : PropertyTable) (property : String) : Option String :=
  (t.entries.find? (·.property == property)).map (·.field)

variable {τ : Type}

/-- The table with one more field, unless that is left out. Its name may not be taken. -/
def extend (t : PropertyTable) (f : Field τ) : Except DeclarationFault PropertyTable := do
  let o ← f.options
  if o.skip then return t
  let name := o.rename.getD f.name
  if name ∈ t.names then .error (.duplicateProperty name)
  else return ⟨t.names ++ [name], t.fields ++ [f.name]⟩

end PropertyTable

namespace Struct
variable {τ : Type}

def propertyTable (s : Struct τ) : Except DeclarationFault PropertyTable :=
  match s.fields with
  | .named fields => fields.foldlM PropertyTable.extend {}
  | .unit => .ok {}
  | .tuple _ => .error .unnamedFields

def stripped (s : Struct τ) : Struct τ :=
  match s.fields with
  | .named fields => { s with fields := .named (fields.map (·.stripped)) }
  | .unit | .tuple _ => s

end Struct
end AggregateRouting
