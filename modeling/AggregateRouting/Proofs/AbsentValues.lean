import AggregateRouting.Proofs.EventRouting

/-! # Absent routing values

An absent routing value is compared like any other, so it stands for the children whose own
identifier is absent. A message that carries one passes to nobody exactly if there are no such
children (`absent_value_selects_none_iff`), and in the shop there are
(`absent_value_selects_record_without_text`). -/

namespace AggregateRouting
variable {P : Type} {r : Relation P} {c : Command} {e : Event} {p : P} {v : RoutingValue}

namespace Relation

/-- Whether what identifies the children of a relation is absent in a child. -/
def LacksIdentifier (r : Relation P) (child : Record) : Prop :=
  ∃ identifier, r.identifier = some identifier ∧ identifier.value? child = some .absent

theorem identifies_absent_iff {child : Record} :
    r.identifies .absent child = true ↔ r.LacksIdentifier child := by
  unfold identifies LacksIdentifier
  cases r.identifier <;> simp

theorem value_target_of_commandValue? (hk : r.kind ≠ .single) (hv : r.commandValue? c = some v) :
    (r.target c p).value = (r.children p).find? (r.identifies v) := by
  rw [target_of_kind hk, value_targetByKey, hv, Option.bind_some]

theorem value_recipients_of_eventValue? (hm : r.mode = .routingKey)
    (hv : r.eventValue? e = some v) :
    (r.recipients e p).value = (r.children p).filter (r.identifies v) := by
  rw [value_recipients_of_routingKey hm, hv]

end Relation

/-- A command or an event with an absent routing value passes to nobody exactly if no child that the
parent holds lacks its identifier: a command is for the first such child, and an event for all. -/
theorem absent_value_selects_none_iff (r : Relation P) (p : P) :
    (∀ c : Command, r.kind ≠ .single → r.commandValue? c = some .absent →
        (r.target c p).value = (r.children p).find? (r.identifies .absent)
        ∧ ((r.target c p).value = none ↔ ∀ child ∈ r.children p, ¬ r.LacksIdentifier child))
    ∧ ∀ e : Event, r.mode = .routingKey → r.eventValue? e = some .absent →
        (r.recipients e p).value = (r.children p).filter (r.identifies .absent)
        ∧ ((r.recipients e p).value = [] ↔
            ∀ child ∈ r.children p, ¬ r.LacksIdentifier child) := by
  constructor
  · intro c hk hv
    have htarget := Relation.value_target_of_commandValue? (p := p) hk hv
    refine ⟨htarget, ?_⟩
    rw [htarget, List.find?_eq_none]
    simp only [Relation.identifies_absent_iff]
  · intro e hm hv
    have hrecipients := Relation.value_recipients_of_eventValue? (p := p) hm hv
    refine ⟨hrecipients, ?_⟩
    rw [hrecipients, List.filter_eq_nil_iff]
    simp only [Relation.identifies_absent_iff]

open Shop in
/-- In the shop the order to split no line is for the wide record that lacks its text, and the event
of a wide record without a text passes to it. -/
theorem absent_value_selects_record_without_text :
    (Shop.config.inspect orderModel routedMembers).value = .ok relations
    ∧ ∃ r ∈ relations, r.kind = .sequence ∧ r.mode = .routingKey
      ∧ r.commandValue? (splitLine.commandOf []) = some .absent
      ∧ (r.target (splitLine.commandOf []) stocked).value.map label = some "Wide:w2"
      ∧ r.eventValue? (wide.eventOf "wide.changed" []) = some .absent
      ∧ (r.recipients (wide.eventOf "wide.changed" []) stocked).value.map label = ["Wide:w2"] :=
  ⟨inspect_eq, by decide +kernel⟩

open Shop in
/-- In the shop no line lacks its identifier, so the order to split no line is for none of them, but
some wide record does. -/
theorem no_line_lacks_identifier :
    (∃ r ∈ relations, r.commandValue? (splitLine.commandOf []) = some .absent
      ∧ r.model.entity.name = "shop::Line"
      ∧ ∀ child ∈ r.children stocked, ¬ r.LacksIdentifier child)
    ∧ ∃ r ∈ relations, r.eventValue? (wide.eventOf "wide.changed" []) = some .absent
      ∧ ∃ child ∈ r.children stocked, r.LacksIdentifier child := by
  have hline : ∃ r ∈ relations, r.kind ≠ .single
      ∧ r.commandValue? (splitLine.commandOf []) = some .absent
      ∧ r.model.entity.name = "shop::Line"
      ∧ (r.target (splitLine.commandOf []) stocked).value.isNone = true := by decide +kernel
  have hwide : ∃ r ∈ relations, r.mode = .routingKey
      ∧ r.eventValue? (wide.eventOf "wide.changed" []) = some .absent
      ∧ (r.recipients (wide.eventOf "wide.changed" []) stocked).value.isEmpty = false := by
    decide +kernel
  constructor
  · obtain ⟨r, hr, hk, hv, hname, hnone⟩ := hline
    obtain ⟨-, hiff⟩ := (absent_value_selects_none_iff r stocked).1 _ hk hv
    exact ⟨r, hr, hv, hname, hiff.1 (Option.isNone_iff_eq_none.1 hnone)⟩
  · obtain ⟨r, hr, hm, hv, hsome⟩ := hwide
    obtain ⟨-, hiff⟩ := (absent_value_selects_none_iff r stocked).2 _ hm hv
    refine ⟨r, hr, hv, ?_⟩
    by_contra hno
    have hall : ∀ child ∈ r.children stocked, ¬ r.LacksIdentifier child :=
      fun child hc hl => hno ⟨child, hc, hl⟩
    rw [hiff.2 hall] at hsome
    cases hsome

end AggregateRouting
