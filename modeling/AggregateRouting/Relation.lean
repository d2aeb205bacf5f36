import AggregateRouting.Config
import AggregateRouting.Log
import AggregateRouting.RoutingKeys

/-! # Relations to child entities

A relation ties a member of a parent type to the model of the children it holds, with all that is
needed to route a message to them. It is built once, and whatever is wrong with the configuration is
found then. -/

namespace AggregateRouting

structure Relation (P : Type) where
  member : MemberId
  kind : ChildKind
  source : Member P
  model : EntityModel
  forwardsCommands : Bool
  mode : ForwardingMode
  eventRoutingKey : Option String
  routingKeys : RoutingKeys
  identifier : Option Property
  hook : EventHook
  strategies : List Strategy
  filter : Option EventFilter

namespace Relation
variable {P : Type}

def handles (r : Relation P) (command : String) : Bool :=
  r.model.handles command

def accepts (r : Relation P) (command : String) : Bool :=
  r.forwardsCommands && r.handles command

def children (r : Relation P) (p : P) : List Record :=
  r.source.slot.children p

def eventKey (r : Relation P) : String :=
  r.eventRoutingKey.getD r.model.routingKey

def outline (r : Relation P) : String :=
  Outline.record "ChildEntityRelation"
    [("member", Quoted.ofText r.member.text), ("definition", r.kind.outline),
      ("child_type", Quoted.ofText r.model.entity.name),
      ("forward_commands", Outline.flag r.forwardsCommands),
      ("event_forwarding_mode", r.mode.outline),
      ("event_routing_key", Outline.optionalText r.eventRoutingKey)]

def created (r : Relation P) : LogEntry :=
  .relationCreated r.member r.kind r.model.entity.name r.forwardsCommands r.mode
    r.routingKeys.length

/-- Whether children have to be told apart: where there may be several, and where events are routed
by key. -/
def needsIdentifier (kind : ChildKind) (mode : ForwardingMode) : Bool :=
  kind != .single || mode == .routingKey

def identifierFor (config : Config) (id : MemberId) (kind : ChildKind) (mode : ForwardingMode)
    (model : EntityModel) : Except ConfigError (Option Property) :=
  match config.findProperty model.entity model.routingKey with
  | some p => .ok (some p)
  | none =>
    if needsIdentifier kind mode then
      .error (.missingIdentifierProperty model.entity.name model.routingKey id.text)
    else .ok none

/-- The filter of the metadata, which is there only, and has to be there, where events are forwarded
by it. -/
def filterFor (id : MemberId) (metadata : Metadata) : Except ConfigError (Option EventFilter) :=
  match metadata.effectiveMode with
  | .custom =>
    match metadata.filter with
    | some filter => .ok (some filter)
    | none => .error (.missingFilter id.text)
  | _ => .ok none

def build (config : Config) (declaring : EntityModel) (kind : ChildKind) (m : Member P)
    (metadata : Metadata) : Except ConfigError (Relation P) := do
  let id : MemberId := ⟨declaring.entity.name, m.name⟩
  let model ← config.childModel id m
  let routingKeys ← RoutingKeys.ofModel config.strategies id model
  let identifier ← identifierFor config id kind metadata.effectiveMode model
  let filter ← filterFor id metadata
  return {
    member := id
    kind := kind
    source := m
    model := model
    forwardsCommands := metadata.forwardsCommands
    mode := metadata.effectiveMode
    eventRoutingKey := metadata.eventRoutingKey
    routingKeys := routingKeys
    identifier := identifier
    hook := config.hook
    strategies := config.strategies
    filter := filter }

/-- The relation of a kind for a member, if the member has metadata and is of that kind. -/
def tryBuild (config : Config) (declaring : EntityModel) (kind : ChildKind) (m : Member P) :
    Except ConfigError (Option (Relation P)) :=
  match m.metadata with
  | none => .ok none
  | some metadata =>
    if m.kind? = some kind then (build config declaring kind m metadata).map some
    else .ok none

theorem tryBuild_eq_ok_some_iff {config : Config} {declaring : EntityModel} {kind : ChildKind}
    {m : Member P} {r : Relation P} :
    tryBuild config declaring kind m = .ok (some r)
      ↔ m.kind? = some kind
        ∧ ∃ metadata, m.metadata = some metadata
          ∧ build config declaring kind m metadata = .ok r := by
  unfold tryBuild
  cases m.metadata with
  | none => simp
  | some metadata =>
    by_cases hk : m.kind? = some kind
    · cases hb : build config declaring kind m metadata <;> simp [hk, hb, Except.map]
    · simp [hk]

def tryBuildLogged (config : Config) (declaring : EntityModel) (kind : ChildKind) (m : Member P) :
    Logged (Except ConfigError (Option (Relation P))) :=
  match tryBuild config declaring kind m with
  | .ok (some r) => .reporting r.created (.ok (some r))
  | result => .quiet result

@[simp] theorem value_tryBuildLogged (config : Config) (declaring : EntityModel) (kind : ChildKind)
    (m : Member P) :
    (tryBuildLogged config declaring kind m).value = tryBuild config declaring kind m := by
  unfold tryBuildLogged
  split <;> simp_all

end Relation
end AggregateRouting
