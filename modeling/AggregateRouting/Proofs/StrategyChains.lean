import AggregateRouting.Strategy
import AggregateRouting.Proofs.SnakeCase
import AggregateRouting.Shop.Catalog

/-! # Chains of strategies

A chain is searched from its first strategy to its last (`findProperty_append`), so a strategy that
was asked before has nothing to add (`findProperty_of_repeated`). The default chain finds what is
declared under the name and else what is declared under the name in snake case
(`findProperty_defaults`): that it does not look twice for a name that is in snake case already is
not seen in what it finds. -/

namespace AggregateRouting

/-- The property of that name in snake case, be the name in snake case already or not. -/
def Strategy.alwaysSnakeCase : Strategy :=
  fun t name => t.property? (SnakeCase.ofName name)

variable {t : RecordType} {name : String} {s : Strategy} {before after : List Strategy}

theorem findProperty_eq_none_of_mem (h : findProperty before t name = none) (hs : s ∈ before) :
    s t name = none :=
  List.findSome?_eq_none_iff.1 h s hs

theorem findProperty_of_repeated (hs : s ∈ before) :
    findProperty (before ++ s :: after) t name = findProperty (before ++ after) t name := by
  rw [findProperty_append, findProperty_append, findProperty_cons]
  cases h : findProperty before t name with
  | some p => rfl
  | none => rw [findProperty_eq_none_of_mem h hs]; rfl

theorem findProperty_defaults :
    findProperty Strategy.defaults t name
      = (t.property? name).or (t.property? (SnakeCase.ofName name)) := by
  rw [Strategy.defaults, findProperty_cons, findProperty_cons, findProperty_nil, Strategy.direct,
    Strategy.snakeCase]
  cases hdirect : t.property? name with
  | some p => rfl
  | none =>
    by_cases hsame : SnakeCase.ofName name = name
    · simp [hsame, hdirect]
    · simp [hsame]

theorem findProperty_defaults_eq_always :
    findProperty Strategy.defaults t name
      = findProperty [.direct, .alwaysSnakeCase] t name := by
  rw [findProperty_defaults, findProperty_cons, findProperty_cons, findProperty_nil,
    Strategy.direct, Strategy.alwaysSnakeCase]
  cases t.property? name <;> cases t.property? (SnakeCase.ofName name) <;> rfl

/-- A chain of two chains finds what the first one finds, or else what the second one does, and a
repeated strategy may be dropped. The default chain prefers the property declared under the name to
the one under the name in snake case. -/
theorem chains_search_in_order (t : RecordType) (name : String) :
    (∀ chain chain' : List Strategy, findProperty (chain ++ chain') t name
      = if (findProperty chain t name).isSome then findProperty chain t name
        else findProperty chain' t name)
    ∧ (∀ (before after : List Strategy) (s : Strategy), s ∈ before →
        findProperty (before ++ s :: after) t name = findProperty (before ++ after) t name)
    ∧ (∀ p, findProperty Strategy.defaults t name = some p
        ↔ t.property? name = some p
          ∨ t.property? name = none ∧ t.property? (SnakeCase.ofName name) = some p)
    ∧ findProperty Strategy.defaults t name = findProperty [.direct, .alwaysSnakeCase] t name
    ∧ (t.property? name = none → Letter.Lowerable name →
        findProperty Strategy.defaults t name
          = findProperty Strategy.defaults t (SnakeCase.ofName name)) := by
  refine ⟨fun chain chain' => ?_, fun before after s hs => findProperty_of_repeated hs,
    fun p => ?_, findProperty_defaults_eq_always, fun hnone hlower => ?_⟩
  · rw [findProperty_append]
    cases findProperty chain t name <;> rfl
  · rw [findProperty_defaults, Option.or_eq_some_iff]
  · rw [findProperty_defaults, findProperty_defaults, SnakeCase.ofName_ofName hlower, hnone]
    simp

open Shop in
/-- Odd records declare two spellings of a name. Each is found under itself, and a third spelling
leads to the one in snake case. -/
theorem third_spelling_leads_to_snake_case :
    odd.type.property? "LineId" = none ∧ Letter.Lowerable "LineId"
    ∧ findProperty Strategy.defaults odd.type "LineId"
      = findProperty Strategy.defaults odd.type "line_id"
    ∧ (findProperty Strategy.defaults odd.type "line_id").map (·.name) = some "line_id"
    ∧ (findProperty Strategy.defaults odd.type "lineId").map (·.name) = some "lineId" := by
  have hnone : odd.type.property? "LineId" = none :=
    Option.isNone_iff_eq_none.1 (by decide +kernel)
  have hlower : Letter.Lowerable "LineId" := by decide +kernel
  have hsnake : SnakeCase.ofName "LineId" = "line_id" := by decide +kernel
  obtain ⟨-, -, -, -, hsame⟩ := chains_search_in_order odd.type "LineId"
  have hsame := hsame hnone hlower
  rw [hsnake] at hsame
  exact ⟨hnone, hlower, hsame, by decide +kernel, by decide +kernel⟩

end AggregateRouting
