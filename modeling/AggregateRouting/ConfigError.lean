import AggregateRouting.Metadata.Decode

/-! # Configuration errors

What can be wrong with a declaration of models and members. All of it is found before the first
message is routed. -/

namespace AggregateRouting

/-- A fault of the configuration. A member is named by the text of its identifier. -/
inductive ConfigError
  | missingRoutingProperty (payloadType routingKey member : String)
  | missingIdentifierProperty (entity routingKey member : String)
  | duplicateHandler (command entity : String)
  | modelNotFound (entity member : String)
  | duplicateModel (entity : String)
  | missingFilter (member : String)
  | invalidMetadata (reason : String)
  | undecodable (fault : DecodeError)

namespace ConfigError

def attributesNotObject (member : String) : ConfigError :=
  .invalidMetadata ("member " ++ member ++ ": attributes must be an object")

/-- A plain value is taken for a member that holds child entities. -/
def notAChild (member declaredType : String) : ConfigError :=
  .invalidMetadata ("member " ++ member ++ " of type [" ++ declaredType
    ++ "] is not a child entity member")

def member? : ConfigError → Option String
  | missingRoutingProperty _ _ member | missingIdentifierProperty _ _ member
  | modelNotFound _ member | missingFilter member => some member
  | duplicateHandler .. | duplicateModel _ | invalidMetadata _ | undecodable _ => none

private def noProperty (what type routingKey member : String) : String :=
  what ++ " of type [" ++ type ++ "] doesn't have a property matching the routing key ["
    ++ routingKey ++ "] necessary to route through member [" ++ member ++ "]"

def message : ConfigError → String
  | missingRoutingProperty payloadType routingKey member =>
    noProperty "command" payloadType routingKey member
  | missingIdentifierProperty entity routingKey member =>
    noProperty "entity" entity routingKey member
  | duplicateHandler command entity =>
    "duplicate command handler: command=" ++ command ++ ", entity=" ++ entity
  | modelNotFound entity member =>
    "entity model not found: type=" ++ entity ++ ", member=" ++ member
  | duplicateModel entity => "duplicate entity model: type=" ++ entity
  | missingFilter member => "custom event forwarding requires a filter: member=" ++ member
  | invalidMetadata reason => "invalid member metadata: " ++ reason
  | undecodable fault => "serialization error: " ++ fault.message

end ConfigError
end AggregateRouting
