import AggregateRouting.Source.Fault

/-! # Faults of declarations

What can be wrong with a structure from which properties are derived. -/

namespace AggregateRouting

inductive Derivation
  | properties
  | command
  deriving DecidableEq

def Derivation.name : Derivation → String
  | properties => "#[properties]"
  | command => "#[command]"

inductive DeclarationFault
  | unreadable (fault : Source.Fault)
  | unexpectedArguments
  | notAStruct (derivation : Derivation)
  | unnamedFields
  | duplicateProperty (name : String)
  | repeatedKey (name : String)
  | unknownPropertyKey
  | unknownCommandKey
  | emptyCommandName
  | expectedIdentifier
  | keyword (word : String)
  | expectedEquals
  | expectedText
  /-- An equals sign at the end of a list. -/
  | missingText
  | expectedComma
  | literalKey
  | unexpectedKey
  /-- A double colon as the last key of a property. -/
  | missingKey
  /-- A double colon with no word after it, perhaps at the end of a list. -/
  | unfinishedKey (atEnd : Bool)
  | bareAttribute
  | expectedParentheses
  deriving DecidableEq

namespace DeclarationFault

def message : DeclarationFault → String
  | unreadable fault => fault.message
  | unexpectedArguments => "#[properties] takes no arguments"
  | notAStruct derivation => derivation.name ++ " only on struct"
  | unnamedFields => "#[properties] supports only named-field or unit struct"
  | duplicateProperty name => "duplicate property name '" ++ name ++ "'"
  | repeatedKey name => "duplicate key '" ++ name ++ "' in attribute"
  | unknownPropertyKey => "unknown key; expected 'skip' | 'rename'"
  | unknownCommandKey => "unknown key in attribute; expected 'name'"
  | emptyCommandName => "command name must not be empty"
  | expectedIdentifier => "expected identifier"
  | keyword word => "expected identifier, found keyword `" ++ word ++ "`"
  | expectedEquals => "expected `=`"
  | expectedText => "expected string literal"
  | missingText => "unexpected end of input, expected string literal"
  | expectedComma => "expected `,`"
  | literalKey => "unexpected literal in nested attribute, expected ident"
  | unexpectedKey => "unexpected token in nested attribute, expected ident"
  | missingKey => "unexpected end of input, expected nested attribute"
  | unfinishedKey true => "unexpected end of input, expected ident"
  | unfinishedKey false => "expected ident"
  | bareAttribute => "expected attribute arguments in parentheses: #[property(...)]"
  | expectedParentheses => "expected parentheses: #[property(...)]"

end DeclarationFault
end AggregateRouting
