import AggregateRouting.Proofs.EventRouting
import Mathlib.Data.List.TakeWhile

/-! # What routing reports

What the configuration says of a message and a member, without a relation: the report that no child
has the value of a command (`missReport?`), and the report that an event has no value
(`valuelessReport?`). A command is reported for the members before the one whose child it is for,
and an event for all members (`routing_log`). -/

namespace AggregateRouting
variable {P : Type} {config : Config} {declaring : EntityModel} {m : Member P}
  {ms : List (Member P)} {metadata : Metadata} {r : Relation P} {rs : List (Relation P)}
  {c : Command} {e : Event} {p : P}

namespace Config

/-- What is reported of a member with several children, to which a command may pass, if none of them
has the value that the command carries. There is no report if it carries none. -/
def missReport? (config : Config) (declaring : EntityModel) (c : Command) (m : Member P) :
    Option LogEntry :=
  if config.passesCommand m c.name = true ∧ m.kind? ≠ some .single then
    (config.modelFor? m).bind fun model =>
      (config.commandValue? model c).map
        (.noChildMatches ⟨declaring.entity.name, m.name⟩ c.name)
  else none

/-- What is reported of a member whose children are told of events by key, if there are any and the
event has no value for the key. -/
def valuelessReport? (config : Config) (declaring : EntityModel) (e : Event) (p : P)
    (m : Member P) : Option LogEntry :=
  match m.metadata, config.modelFor? m with
  | some metadata, some model =>
    if metadata.effectiveMode = .routingKey ∧ m.slot.children p ≠ []
        ∧ config.eventValue? metadata model e = none then
      some (.eventWithoutValue ⟨declaring.entity.name, m.name⟩ e.name
        (metadata.eventRoutingKey.getD model.routingKey))
    else none
  | _, _ => none

theorem missReport?_eq_some_iff {entry : LogEntry} :
    config.missReport? declaring c m = some entry
      ↔ config.passesCommand m c.name = true ∧ m.kind? ≠ some .single
        ∧ ∃ model v, config.modelFor? m = some model ∧ config.commandValue? model c = some v
          ∧ entry = .noChildMatches ⟨declaring.entity.name, m.name⟩ c.name v := by
  rw [missReport?, Option.ite_none_right_eq_some, Option.bind_eq_some_iff]
  simp only [Option.map_eq_some_iff]
  constructor
  · rintro ⟨⟨hpass, hk⟩, model, hmodel, v, hv, rfl⟩
    exact ⟨hpass, hk, model, v, hmodel, hv, rfl⟩
  · rintro ⟨hpass, hk, model, v, hmodel, hv, rfl⟩
    exact ⟨⟨hpass, hk⟩, model, hmodel, v, hv, rfl⟩

theorem valuelessReport?_eq_some_iff {entry : LogEntry} :
    config.valuelessReport? declaring e p m = some entry
      ↔ ∃ metadata model, m.metadata = some metadata ∧ config.modelFor? m = some model
        ∧ metadata.effectiveMode = .routingKey ∧ m.slot.children p ≠ []
        ∧ config.eventValue? metadata model e = none
        ∧ entry = .eventWithoutValue ⟨declaring.entity.name, m.name⟩ e.name
          (metadata.eventRoutingKey.getD model.routingKey) := by
  unfold valuelessReport?
  constructor
  · split
    next metadata model hmeta hmodel =>
      rw [Option.ite_none_right_eq_some]
      rintro ⟨⟨hmode, hheld, hnone⟩, ⟨⟩⟩
      exact ⟨metadata, model, hmeta, hmodel, hmode, hheld, hnone, rfl⟩
    next => rintro ⟨⟩
  · rintro ⟨metadata, model, hmeta, hmodel, hmode, hheld, hnone, rfl⟩
    rw [hmeta, hmodel]
    exact if_pos ⟨hmode, hheld, hnone⟩

end Config

/-! ### One relation -/

namespace Relation

theorem log_targetByKey_of_none {property : Property}
    (hk : r.routingKeys.property? c.name = some property)
    (h : (r.targetByKey c p).value = none) :
    (r.targetByKey c p).log
      = ((r.commandValue? c).map (.noChildMatches r.member c.name)).toList := by
  unfold targetByKey at h ⊢
  rw [commandValue?, hk, Option.bind_some]
  rw [hk] at h
  dsimp only at h ⊢
  cases hv : property.value? c.payload.val with
  | none => rfl
  | some v =>
    rw [hv] at h
    dsimp only at h ⊢
    cases hf : (r.children p).find? (r.identifies v) with
    | none => rfl
    | some child =>
      rw [hf] at h
      cases h

namespace WellBuilt

theorem log_target_of_none (h : WellBuilt config declaring m metadata r)
    (ha : r.accepts c.name = true) (hnone : (r.target c p).value = none) :
    (r.target c p).log = (config.missReport? declaring c m).toList := by
  have hpass : config.passesCommand m c.name = true := by rwa [← h.accepts_eq]
  rw [Config.missReport?, h.kind_eq, h.model_eq, Option.bind_some]
  by_cases hk : r.kind = .single
  · rw [target, hk, if_neg (by simp)]
    rfl
  · have hkey : (r.routingKeys.property? c.name).isSome = true := by
      rw [RoutingKeys.isSome_property?_eq h.entries]
      exact (Bool.and_eq_true_iff.1 ha).2
    obtain ⟨property, hkey⟩ := Option.isSome_iff_exists.1 hkey
    rw [target_of_kind hk] at hnone ⊢
    rw [log_targetByKey_of_none hkey hnone, h.commandValue?_eq, h.member_eq,
      if_pos ⟨hpass, by simpa using hk⟩]

theorem log_recipients (h : WellBuilt config declaring m metadata r) (e : Event) (p : P) :
    (r.recipients e p).log = (config.valuelessReport? declaring e p m).toList := by
  have hmode := h.mode_eq
  rw [Config.valuelessReport?, h.metadata_eq, h.model_eq]
  dsimp only
  rw [← hmode, ← h.children_eq]
  cases hm : r.mode with
  | none => rw [recipients_of_none hm]; rfl
  | all => rw [recipients_of_all hm]; rfl
  | custom =>
    obtain ⟨filter, hf⟩ := Option.isSome_iff_exists.1 (h.filtered hm)
    rw [recipients_of_custom hm hf]
    rfl
  | routingKey =>
    obtain ⟨identifier, hid⟩ := Option.isSome_iff_exists.1 (h.identified (.inr hm))
    rw [recipients_of_routingKey hm hid, eventKey, h.eventRoutingKey_eq, h.hook_eq,
      h.strategies_eq, h.member_eq, Config.eventValue?]
    by_cases hc : r.children p = []
    · simp [hc]
    · cases hv : config.hook e (metadata.eventRoutingKey.getD r.model.routingKey)
          config.strategies <;> simp [hc]

theorem log_of_unresolved (h : WellBuilt config declaring m metadata r)
    (hr : r.resolves c p = false) :
    (if r.accepts c.name then (r.target c p).log else [])
      = (config.missReport? declaring c m).toList := by
  by_cases ha : r.accepts c.name = true
  · rw [if_pos ha, h.log_target_of_none ha (by simpa [resolves, ha] using hr)]
  · rw [if_neg ha, Config.missReport?, ← h.accepts_eq, if_neg fun hc => ha hc.1]
    rfl

theorem commandTarget?_of_unresolved (h : WellBuilt config declaring m metadata r)
    (hr : r.resolves c p = false) : config.commandTarget? c p m = none := by
  rw [Config.commandTarget?_eq_none_iff, ← h.accepts_eq, ← h.value_target]
  intro ha
  simpa [resolves, ha] using hr

end WellBuilt
end Relation

/-! ### All relations -/

theorem relation_routeCommand (rs : List (Relation P)) :
    (routeCommand c p rs).value.map (·.relation)
      = (rs.dropWhile fun r => !r.resolves c p).head? := by
  induction rs with
  | nil => rfl
  | cons r rs ih =>
    unfold routeCommand
    by_cases ha : r.accepts c.name = true
    · cases ht : (r.target c p).value with
      | none => simp [ha, ht, ih, Relation.resolves]
      | some child => simp [ha, ht, Relation.resolves]
    · simp [ha, ih, Relation.resolves]

theorem wellBuilt_of_mem_takeWhile (h : (config.inspect declaring ms).value = .ok rs)
    (hr : r ∈ rs.takeWhile fun r => !r.resolves c p) :
    (∃ metadata, Relation.WellBuilt config declaring r.source metadata r)
      ∧ r.resolves c p = false := by
  have hunresolved := List.mem_takeWhile_imp hr
  have hmem := (List.takeWhile_prefix _).subset hr
  exact ⟨Config.wellBuilt_of_mem_inspect h hmem, by simpa using hunresolved⟩

theorem log_routeCommand_of_inspect (h : (config.inspect declaring ms).value = .ok rs) (c : Command)
    (p : P) :
    (routeCommand c p rs).log
      = (rs.takeWhile fun r => !r.resolves c p).filterMap
          fun r => config.missReport? declaring c r.source := by
  rw [log_routeCommand, List.filterMap_eq_flatMap_toList]
  refine List.flatMap_congr fun r hr => ?_
  obtain ⟨⟨metadata, hbuilt⟩, hunresolved⟩ := wellBuilt_of_mem_takeWhile h hr
  exact hbuilt.log_of_unresolved hunresolved

theorem log_routeEvent_of_inspect (h : (config.inspect declaring ms).value = .ok rs) (e : Event)
    (p : P) :
    (routeEvent e p rs).log
      = (ms.filter config.takes).filterMap (config.valuelessReport? declaring e p) := by
  have hmap := Config.map_eq_map_of_inspect (f := fun r => (r.recipients e p).log)
    (g := fun m => (config.valuelessReport? declaring e p m).toList)
    (fun hr => hr.log_recipients e p) h
  rw [log_routeEvent, List.flatMap_def, hmap, ← List.flatMap_def,
    List.filterMap_eq_flatMap_toList]

/-- Of a command there is a report for each member that passes it, holds several children and finds
none with its value, up to the one whose child it is for; of an event, for each member whose
children are told by key if it has no value. There are no other reports. -/
theorem routing_log (h : (config.inspect declaring ms).value = .ok rs) :
    rs.map (·.source) = ms.filter config.takes
    ∧ (∀ (c : Command) (p : P), ∃ passed rest, rs = passed ++ rest
        ∧ (routeCommand c p rs).value.map (·.relation) = rest.head?
        ∧ (∀ r ∈ passed, config.commandTarget? c p r.source = none)
        ∧ (routeCommand c p rs).log
            = passed.filterMap (fun r => config.missReport? declaring c r.source)
        ∧ ∀ entry ∈ (routeCommand c p rs).log, entry.level = .trace
            ∧ entry.message = "no child entity matches routing value")
    ∧ ∀ (e : Event) (p : P),
        (routeEvent e p rs).log
          = (ms.filter config.takes).filterMap (config.valuelessReport? declaring e p)
        ∧ ∀ entry ∈ (routeEvent e p rs).log, entry.level = .trace
            ∧ entry.message = "event carries no routing value" := by
  refine ⟨Config.map_source_of_inspect h, fun c p => ?_, fun e p => ?_⟩
  · have hlog := log_routeCommand_of_inspect h c p
    refine ⟨_, _, List.takeWhile_append_dropWhile.symm, relation_routeCommand rs, ?_, hlog, ?_⟩
    · intro r hr
      obtain ⟨⟨metadata, hbuilt⟩, hunresolved⟩ := wellBuilt_of_mem_takeWhile h hr
      exact hbuilt.commandTarget?_of_unresolved hunresolved
    · intro entry hentry
      rw [hlog, List.mem_filterMap] at hentry
      obtain ⟨r, -, hentry⟩ := hentry
      obtain ⟨-, -, model, v, -, -, rfl⟩ := Config.missReport?_eq_some_iff.1 hentry
      exact ⟨rfl, rfl⟩
  · have hlog := log_routeEvent_of_inspect h e p
    refine ⟨hlog, fun entry hentry => ?_⟩
    rw [hlog, List.mem_filterMap] at hentry
    obtain ⟨m, -, hentry⟩ := hentry
    obtain ⟨metadata, model, -, -, -, -, -, rfl⟩ := Config.valuelessReport?_eq_some_iff.1 hentry
    exact ⟨rfl, rfl⟩

open Shop in
/-- No line has the number that a split order lacks, so that the order passes on to a wide record,
and the wide records are not told of a shipped line, for there is no text to tell them by. -/
theorem split_order_is_reported_for_lines :
    (∃ passed rest, relations = passed ++ rest
      ∧ rest.head?.map (·.member.member) = some "wides"
      ∧ (routeCommand (splitLine.commandOf []) stocked relations).log
        = passed.filterMap fun r =>
            Shop.config.missReport? orderModel (splitLine.commandOf []) r.source)
    ∧ (routeCommand (splitLine.commandOf []) stocked relations).log
      = [.noChildMatches ⟨"shop::Order", "lines"⟩ "line.split" .absent]
    ∧ (routedMembers.filter Shop.config.takes).filterMap
        (Shop.config.valuelessReport? orderModel
          (lineShipped.eventOf "line.shipped" [("line_id", .int 2)]) stocked)
      = [.eventWithoutValue ⟨"shop::Order", "wides"⟩ "line.shipped" "opt_text"] := by
  obtain ⟨-, hcommand, hevent⟩ := routing_log inspect_eq
  refine ⟨?_, by decide +kernel, ?_⟩
  · obtain ⟨passed, rest, hsplit, hrest, -, hlog, -⟩ := hcommand (splitLine.commandOf []) stocked
    have hname : (routeCommand (splitLine.commandOf []) stocked relations).value.map
        (·.relation.member.member) = some "wides" := by
      decide +kernel
    refine ⟨passed, rest, hsplit, ?_, hlog⟩
    rw [← hrest, Option.map_map]
    exact hname
  · rw [← (hevent _ _).1]
    decide +kernel

end AggregateRouting
