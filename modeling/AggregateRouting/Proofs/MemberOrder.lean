import AggregateRouting.Proofs.InspectionLog
import AggregateRouting.Proofs.TypeSafety
import Mathlib.Data.List.Perm.Basic

/-! # The order of the members

An inspection looks at each member on its own, so the members in another order give the same
relations in another order (`Config.perm_of_inspect`). Then an event passes to the same children in
another order, and a command is for somebody in one order exactly if it is in the other; for whom
can depend on the order only where several relations resolve it (`members_reordered`). -/

namespace AggregateRouting
variable {P : Type} {config : Config} {declaring : EntityModel} {ms ms' : List (Member P)}
  {r : Relation P} {rs rs' : List (Relation P)} {c : Command} {e : Event} {p : P}

namespace Config

theorem exists_inspect_eq_ok_iff :
    (∃ rs, (config.inspect declaring ms).value = .ok rs)
      ↔ ∀ m ∈ ms, config.passes declaring m = true := by
  constructor
  · rintro ⟨rs, h⟩
    exact (inspect_eq_ok_iff_passes.1 h).1
  · intro hpass
    exact ⟨_, inspect_eq_ok_iff_passes.2 ⟨hpass, rfl⟩⟩

theorem perm_of_inspect (hp : ms.Perm ms') (h : (config.inspect declaring ms).value = .ok rs)
    (h' : (config.inspect declaring ms').value = .ok rs') : rs.Perm rs' := by
  obtain ⟨-, rfl⟩ := inspect_eq_ok_iff_passes.1 h
  obtain ⟨-, rfl⟩ := inspect_eq_ok_iff_passes.1 h'
  exact hp.filterMap _

end Config

theorem perm_value_routeEvent (hp : rs.Perm rs') :
    (routeEvent e p rs).value.Perm (routeEvent e p rs').value := by
  rw [value_routeEvent, value_routeEvent]
  exact hp.flatMap_right _

theorem resolves_of_routeCommand {t : Target P} (h : (routeCommand c p rs).value = some t) :
    t.relation ∈ rs ∧ t.relation.resolves c p = true := by
  obtain ⟨hmem, haccepts, htarget⟩ := mem_of_routeCommand h
  refine ⟨hmem, ?_⟩
  rw [Relation.resolves, haccepts, htarget]
  rfl

theorem isSome_value_routeCommand_iff :
    (routeCommand c p rs).value.isSome = true ↔ ∃ r ∈ rs, r.resolves c p = true := by
  constructor
  · intro h
    obtain ⟨t, ht⟩ := Option.isSome_iff_exists.1 h
    exact ⟨t.relation, resolves_of_routeCommand ht⟩
  · rintro ⟨r, hr, hres⟩
    obtain ⟨haccepts, hsome⟩ := Bool.and_eq_true_iff.1 hres
    rw [value_routeCommand, List.findSome?_isSome_iff]
    exact ⟨r, List.mem_filter.2 ⟨hr, haccepts⟩, by rwa [Option.isSome_map]⟩

theorem isSome_value_routeCommand_of_perm (hp : rs.Perm rs') :
    (routeCommand c p rs).value.isSome = (routeCommand c p rs').value.isSome := by
  rw [Bool.eq_iff_iff, isSome_value_routeCommand_iff, isSome_value_routeCommand_iff]
  simp only [hp.mem_iff]

theorem Target.eq_of_relation_eq {t t' : Target P}
    (h : (t.relation.target c p).value = some t.child)
    (h' : (t'.relation.target c p).value = some t'.child) (hrelation : t.relation = t'.relation) :
    t = t' := by
  obtain ⟨relation, child⟩ := t
  obtain ⟨relation', child'⟩ := t'
  obtain rfl : relation = relation' := hrelation
  obtain rfl : child = child' := Option.some.inj (h.symm.trans h')
  rfl

theorem value_routeCommand_of_perm (hp : rs.Perm rs')
    (hunique : ∀ r ∈ rs, ∀ r' ∈ rs, r.resolves c p = true → r'.resolves c p = true → r = r') :
    (routeCommand c p rs).value = (routeCommand c p rs').value := by
  have hsome := isSome_value_routeCommand_of_perm (c := c) (p := p) hp
  cases h : (routeCommand c p rs).value with
  | none =>
    rw [h] at hsome
    exact (Option.isNone_iff_eq_none.1 (Option.isSome_eq_false_iff.1 hsome.symm)).symm
  | some t =>
    rw [h] at hsome
    obtain ⟨t', h'⟩ := Option.isSome_iff_exists.1 hsome.symm
    obtain ⟨hmem, hres⟩ := resolves_of_routeCommand h
    obtain ⟨hmem', hres'⟩ := resolves_of_routeCommand h'
    have hrelation : t.relation = t'.relation :=
      hunique _ hmem _ (hp.mem_iff.2 hmem') hres hres'
    obtain ⟨-, -, htarget⟩ := mem_of_routeCommand h
    obtain ⟨-, -, htarget'⟩ := mem_of_routeCommand h'
    rw [h', Target.eq_of_relation_eq htarget htarget' hrelation]

/-- With its members in another order an inspection has the same relations in another order, and an
event passes to the same children. A command is for the same child where at most one relation
resolves it. -/
theorem members_reordered (config : Config) (declaring : EntityModel) {ms ms' : List (Member P)}
    (hp : ms.Perm ms') :
    ((∃ rs, (config.inspect declaring ms).value = .ok rs)
      ↔ ∃ rs', (config.inspect declaring ms').value = .ok rs')
    ∧ ∀ rs rs', (config.inspect declaring ms).value = .ok rs →
        (config.inspect declaring ms').value = .ok rs' →
        rs.map (·.source) = ms.filter config.takes ∧ rs'.map (·.source) = ms'.filter config.takes
        ∧ rs.Perm rs'
        ∧ (∀ (e : Event) (p : P),
            (routeEvent e p rs).value = rs.flatMap (fun r => (r.recipients e p).value)
            ∧ (routeEvent e p rs').value = rs'.flatMap (fun r => (r.recipients e p).value)
            ∧ (routeEvent e p rs).value.Perm (routeEvent e p rs').value)
        ∧ ∀ (c : Command) (p : P),
            (routeCommand c p rs).value.isSome = (routeCommand c p rs').value.isSome
            ∧ ((∀ r ∈ rs, ∀ r' ∈ rs,
                  r.resolves c p = true → r'.resolves c p = true → r = r') →
                (routeCommand c p rs).value = (routeCommand c p rs').value) := by
  constructor
  · rw [Config.exists_inspect_eq_ok_iff, Config.exists_inspect_eq_ok_iff]
    simp only [hp.mem_iff]
  · intro rs rs' h h'
    have hrelations := Config.perm_of_inspect hp h h'
    refine ⟨Config.map_source_of_inspect h, Config.map_source_of_inspect h', hrelations,
      fun e p => ?_, fun c p => ?_⟩
    · exact ⟨value_routeEvent rs, value_routeEvent rs', perm_value_routeEvent hrelations⟩
    · exact ⟨isSome_value_routeCommand_of_perm hrelations, value_routeCommand_of_perm hrelations⟩

open Shop in
/-- In the shop with its members from the last to the first, three members accept the order to split
no line, but only one resolves it. -/
theorem split_order_is_for_same_record :
    routedMembers.Perm routedMembers.reverse
    ∧ (relations.filter (·.accepts "line.split")).length = 3
    ∧ ∃ rs, (Shop.config.inspect orderModel routedMembers.reverse).value = .ok rs
      ∧ ((routeEvent (lineShipped.eventOf "line.shipped" [("line_id", .int 2)]) stocked
          rs).value.map label).Perm ["Line:l2", "Line:l2", "Line:l1"]
      ∧ (routeCommand (splitLine.commandOf []) stocked rs).value.map (label ·.child)
          = some "Wide:w2" := by
  have hp := (List.reverse_perm routedMembers).symm
  obtain ⟨hok, hsame⟩ := members_reordered Shop.config orderModel hp
  obtain ⟨rs, hrs⟩ := hok.1 ⟨relations, inspect_eq⟩
  obtain ⟨-, -, -, hevents, hcommands⟩ := hsame relations rs inspect_eq hrs
  refine ⟨hp, by decide +kernel, rs, hrs, ?_, ?_⟩
  · rw [← map_label_routeEvent]
    exact (hevents _ stocked).2.2.symm.map label
  · have hone : (relations.filter (·.resolves (splitLine.commandOf []) stocked)).length = 1 := by
      decide +kernel
    obtain ⟨only, honly⟩ := List.length_eq_one_iff.1 hone
    have hunique : ∀ r ∈ relations, r.resolves (splitLine.commandOf []) stocked = true →
        r = only := by
      intro r hr hres
      have hmem : r ∈ relations.filter (·.resolves (splitLine.commandOf []) stocked) :=
        List.mem_filter.2 ⟨hr, hres⟩
      rw [honly] at hmem
      exact List.mem_singleton.1 hmem
    obtain ⟨-, htarget⟩ := hcommands (splitLine.commandOf []) stocked
    rw [← htarget fun r hr r' hr' h h' => (hunique r hr h).trans (hunique r' hr' h').symm]
    decide +kernel

end AggregateRouting
