import AggregateRouting.Member
import AggregateRouting.Registry

/-! # Configuration

From which models, by which strategies and for which kinds of members relations are built, and how a
routing value is derived from an event. -/

namespace AggregateRouting

structure Config where
  registry : Registry := .empty
  kinds : List ChildKind := ChildKind.all
  strategies : List Strategy := Strategy.defaults
  hook : EventHook := .payload

namespace Config

def findProperty (c : Config) (t : RecordType) (name : String) : Option Property :=
  AggregateRouting.findProperty c.strategies t name

def outline (c : Config) : String :=
  Outline.record "ChildEntityDefinitions"
    [("models", toString c.registry.size),
      ("definitions", Outline.list (c.kinds.map (·.outline))),
      ("property_strategies", toString c.strategies.length)]

def childModel {P : Type} (c : Config) (id : MemberId) (m : Member P) :
    Except ConfigError EntityModel :=
  match m.childType? with
  | none => .error (.notAChild id.text m.declaredType)
  | some t =>
    match c.registry.modelOf? t with
    | none => .error (.modelNotFound t.name id.text)
    | some model => .ok model

end Config
end AggregateRouting
