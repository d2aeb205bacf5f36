import AggregateRouting.Declaration.PropertyTable
import AggregateRouting.Source.Keyword

/-! # Expansions

What an annotated structure becomes: the structure without the attributes that were read, its
property table and, for a command, its name. -/

namespace AggregateRouting

structure Expansion (τ : Type) where
  struct : Struct τ
  table : PropertyTable
  command : Option String := none
  deriving DecidableEq

/-- One of the facets that an expansion gives to a structure, for which parameters and under which
condition. -/
structure Facet where
  name : String
  target : List Source.Token
  parameters : List (List Source.Token)
  condition : Option (List Source.Token)
  deriving DecidableEq

variable {τ : Type}

def Struct.facet (s : Struct τ) (name : String) : Facet where
  name := name
  target := s.parameters.applied s.name
  parameters := s.parameters.declarations
  condition := s.condition

namespace Expansion

def access (x : Expansion τ) : Facet :=
  x.struct.facet "PropertyAccess"

def facets (x : Expansion τ) : List Facet :=
  x.access :: (x.command.map fun _ => x.struct.facet "Command").toList

end Expansion

namespace Struct

def withProperties (s : Struct τ) : Except DeclarationFault (Expansion τ) :=
  return { struct := s.stripped, table := ← s.propertyTable }

def withCommand (s : Struct τ) (name? : Option String) :
    Except DeclarationFault (Expansion τ) := do
  let e ← s.withProperties
  let name := name?.getD s.name
  if name = "" then .error .emptyCommandName else return { e with command := some name }

end Struct

namespace CommandArguments

/-- Why the tokens do not start with a word, an equals sign and a text, which end there or are
followed by a comma. -/
def fault : List Source.Token → DeclarationFault
  | .word word :: ts =>
    if Source.Keyword.holds word then .keyword word
    else match ts with
      | [.mark '=' _] => .missingText
      | .mark '=' _ :: .quoted _ _ :: _ => .expectedComma
      | .mark '=' _ :: _ => .expectedText
      | _ => .expectedEquals
  | _ => .expectedIdentifier

/-- Reads words with texts, which have commas between them and perhaps one at the end. -/
def pairs : List Source.Token → Except DeclarationFault (List (String × String))
  | [] => .ok []
  | [.word word, .mark '=' _, .quoted text _] =>
    if Source.Keyword.holds word then .error (.keyword word) else .ok [(word, text)]
  | .word word :: .mark '=' _ :: .quoted text _ :: .mark ',' _ :: ts =>
    if Source.Keyword.holds word then .error (.keyword word)
    else return (word, text) :: (← pairs ts)
  | ts => .error (fault ts)

def judge (name? : Option String) (argument : String × String) :
    Except DeclarationFault (Option String) :=
  if argument.1 = "name" then
    match name? with
    | some _ => .error (.repeatedKey "name")
    | none => .ok (some argument.2)
  else .error .unknownCommandKey

/-- The command name that the arguments give. All of them are read before one is judged. -/
def commandName? (ts : List Source.Token) : Except DeclarationFault (Option String) := do
  (← pairs ts).foldlM judge none

end CommandArguments

namespace Item

def struct? (derivation : Derivation) : Item τ → Except DeclarationFault (Struct τ)
  | struct s => .ok s
  | other => .error (.notAStruct derivation)

/-- The expansion of an item annotated as one with properties. The arguments are judged before the
item, which may be none. -/
def expandProperties (arguments : List Source.Token) (item : Except DeclarationFault (Item τ)) :
    Except DeclarationFault (Expansion τ) := do
  if arguments.isEmpty then (← (← item).struct? .properties).withProperties
  else .error .unexpectedArguments

def expandCommand (arguments : List Source.Token) (item : Except DeclarationFault (Item τ)) :
    Except DeclarationFault (Expansion τ) := do
  let name? ← CommandArguments.commandName? arguments
  (← (← item).struct? .command).withCommand name?

end Item
end AggregateRouting
