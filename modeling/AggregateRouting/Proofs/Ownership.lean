import AggregateRouting.Declaration.RecordType
import AggregateRouting.Proofs.CommandRouting

/-! # Ownership of properties

A strategy that looks up names in the type it is asked about answers with properties of that type
(`answersOwn_of_isLookup`), and so does a chain of such strategies (`findProperty_ownerId`). Then
every child of a built relation has a value of the property that identifies it
(`WellBuilt.exists_identifierValue?`). -/

namespace AggregateRouting
variable {P : Type} {config : Config} {declaring : EntityModel} {m : Member P}
  {metadata : Metadata} {r : Relation P}

namespace Strategy
variable {s : Strategy} {t : RecordType}

/-- Every property that the strategy finds for a type belongs to that type. -/
def AnswersOwn (s : Strategy) (t : RecordType) : Prop :=
  ∀ name p, s t name = some p → p.ownerId = t.id

/-- The strategies that look up a name in the type: the name itself, its spelling in snake case, or
the one that an alias stands for. -/
inductive IsLookup : Strategy → Prop
  | direct : IsLookup direct
  | snakeCase : IsLookup snakeCase
  | aliased (source target : String) : IsLookup (aliased source target)

theorem answersOwn_of_isLookup (hs : s.IsLookup) (ht : t.OwnsProperties) : s.AnswersOwn t := by
  intro name p h
  cases hs with
  | direct => exact ht name p h
  | snakeCase =>
    rw [snakeCase] at h
    split at h
    · cases h
    · exact ht _ p h
  | aliased source target =>
    rw [aliased] at h
    split at h
    · exact ht target p h
    · cases h

theorem isLookup_of_mem_defaults (hs : s ∈ defaults) : s.IsLookup := by
  rcases List.mem_pair.1 hs with rfl | rfl
  · exact .direct
  · exact .snakeCase

end Strategy

theorem findProperty_ownerId {chain : List Strategy} {t : RecordType} {name : String} {p : Property}
    (hown : ∀ s ∈ chain, s.AnswersOwn t) (h : findProperty chain t name = some p) :
    p.ownerId = t.id := by
  obtain ⟨s, hs, hp⟩ := List.exists_of_findSome?_eq_some h
  exact hown s hs name p hp

namespace Relation.WellBuilt

theorem type_of_mem_children (h : WellBuilt config declaring m metadata r) {p : P} {child : Record}
    (hc : child ∈ r.children p) : child.type = r.model.entity.id := by
  obtain ⟨t, ht, hmodel⟩ := Config.modelFor?_eq_some_iff.1 h.model_eq
  have hid : r.model.entity.id = t.id := by simpa using List.find?_some hmodel
  rw [h.children_eq] at hc
  rw [hid]
  exact Slot.type_of_mem_children ht hc

theorem exists_identifierValue? (h : WellBuilt config declaring m metadata r)
    (hown : ∀ s ∈ config.strategies, s.AnswersOwn r.model.entity)
    (hneed : r.kind ≠ .single ∨ r.mode = .routingKey) {p : P} {child : Record}
    (hc : child ∈ r.children p) : ∃ v, config.identifierValue? r.model child = some v := by
  obtain ⟨identifier, hid⟩ := Option.isSome_iff_exists.1 (h.identified hneed)
  rw [h.identifier_eq] at hid
  have htype : child.type = identifier.ownerId := by
    rw [h.type_of_mem_children hc, findProperty_ownerId hown hid]
  refine ⟨identifier.read child, ?_⟩
  rw [Config.identifierValue?, hid, Option.bind_some, Property.value?_eq_some_iff]
  exact ⟨htype, rfl⟩

end Relation.WellBuilt
end AggregateRouting
