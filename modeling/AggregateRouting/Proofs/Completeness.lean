import AggregateRouting.Proofs.EventRouting

/-! # What routing relies on

A relation that was built is `Complete`: it has every entry, identifier and filter that routing asks
it for. So routing never falls back on the answers it has for a relation that lacks one
(`complete_of_tryBuild`). -/

namespace AggregateRouting
variable {P : Type} {config : Config} {declaring : EntityModel} {kind : ChildKind} {m : Member P}
  {metadata : Metadata} {r : Relation P} {rs : List (Relation P)}

namespace Relation

/-- A relation of a kind for a member agrees with the configuration and lacks nothing that routing
asks it for. -/
structure Complete (config : Config) (kind : ChildKind) (m : Member P) (r : Relation P) : Prop where
  kind_eq : r.kind = kind ∧ m.kind? = some kind
  mode_eq : ∃ metadata, m.metadata = some metadata
    ∧ r.mode = .effective metadata.forwardsEvents metadata.mode
  model_eq : ∃ t, m.childType? = some t ∧ config.registry.modelOf? t = some r.model
    ∧ r.model.entity.same t = true
  isSome_key_iff : ∀ n, (r.routingKeys.property? n).isSome = true ↔ r.model.handles n = true
  commands : r.model.DistinctCommands
  key_eq : ∀ h ∈ r.model.handlers, ∃ property, r.routingKeys.property? h.command = some property
    ∧ config.findProperty h.payloadType (h.routingKey.getD r.model.routingKey) = some property
  nodup_keys : (r.routingKeys.map (·.1)).Nodup
  length_keys : r.routingKeys.length = r.model.handlers.length
  identifier_eq : r.identifier = config.findProperty r.model.entity r.model.routingKey
  identified : kind ≠ .single ∨ r.mode = .routingKey → r.identifier.isSome = true
  isSome_filter_iff : r.filter.isSome = true ↔ r.mode = .custom

namespace WellBuilt

theorem isSome_filter_iff (h : WellBuilt config declaring m metadata r) :
    r.filter.isSome = true ↔ r.mode = .custom := by
  constructor
  · intro hf
    by_contra hm
    rw [h.filter_eq, if_neg hm] at hf
    cases hf
  · exact h.filtered

theorem key_eq (h : WellBuilt config declaring m metadata r) {handler : Handler}
    (hh : handler ∈ r.model.handlers) :
    ∃ property, r.routingKeys.property? handler.command = some property
      ∧ config.findProperty handler.payloadType (handler.routingKey.getD r.model.routingKey)
          = some property := by
  have hhandles : r.model.handles handler.command = true :=
    EntityModel.handles_iff.2 (List.mem_map_of_mem hh)
  rw [← RoutingKeys.isSome_property?_eq h.entries] at hhandles
  obtain ⟨property, hp⟩ := Option.isSome_iff_exists.1 hhandles
  refine ⟨property, hp, ?_⟩
  rw [RoutingKeys.property?_command_eq h.commands h.entries hh] at hp
  exact hp

theorem complete (h : WellBuilt config declaring m metadata r) :
    Complete config r.kind m r where
  kind_eq := ⟨rfl, h.kind_eq⟩
  mode_eq := ⟨metadata, h.metadata_eq, h.mode_eq⟩
  model_eq := by
    obtain ⟨t, ht, hmodel⟩ := Config.modelFor?_eq_some_iff.1 h.model_eq
    have hid := List.find?_some hmodel
    exact ⟨t, ht, hmodel, hid⟩
  isSome_key_iff n := by rw [RoutingKeys.isSome_property?_eq h.entries]
  commands := h.commands
  key_eq _ hh := h.key_eq hh
  nodup_keys := by
    rw [RoutingKeys.map_fst_eq_of_entries h.entries]
    exact h.commands
  length_keys := h.entries.length_eq.symm
  identifier_eq := h.identifier_eq
  identified := h.identified
  isSome_filter_iff := h.isSome_filter_iff

end WellBuilt

def Built (r : Relation P) : Prop :=
  ∃ config declaring kind m, tryBuild config declaring kind m = .ok (some r)

theorem complete_of_tryBuild (h : tryBuild config declaring kind m = .ok (some r)) :
    Complete config kind m r := by
  obtain ⟨rfl, metadata, hr⟩ := tryBuild_eq_ok_some_iff_wellBuilt.1 h
  exact hr.complete

namespace Built
variable {c : Command} {e : Event} {p : P}

theorem exists_complete (h : r.Built) : ∃ config kind m, Complete config kind m r := by
  obtain ⟨config, _, kind, m, h⟩ := h
  exact ⟨config, kind, m, complete_of_tryBuild h⟩

theorem exists_key (h : r.Built) (ha : r.accepts c.name = true) :
    ∃ property, r.routingKeys.property? c.name = some property := by
  obtain ⟨_, _, _, hr⟩ := h.exists_complete
  obtain ⟨-, hhandles⟩ := Bool.and_eq_true_iff.1 ha
  exact Option.isSome_iff_exists.1 ((hr.isSome_key_iff c.name).2 hhandles)

theorem exists_identifier (h : r.Built) (hm : r.mode = .routingKey) :
    ∃ identifier, r.identifier = some identifier := by
  obtain ⟨_, _, _, hr⟩ := h.exists_complete
  exact Option.isSome_iff_exists.1 (hr.identified (.inr hm))

theorem exists_filter (h : r.Built) (hm : r.mode = .custom) :
    ∃ filter, r.filter = some filter := by
  obtain ⟨_, _, _, hr⟩ := h.exists_complete
  exact Option.isSome_iff_exists.1 (hr.isSome_filter_iff.2 hm)

end Built

theorem log_targetByKey {c : Command} {p : P} {property : Property}
    (hk : r.routingKeys.property? c.name = some property) {entry : LogEntry}
    (h : entry ∈ (r.targetByKey c p).log) : ∃ v, entry = .noChildMatches r.member c.name v := by
  rw [targetByKey, hk] at h
  dsimp only at h
  split at h
  · cases h
  · next v _ =>
    split at h
    · exact ⟨v, List.mem_singleton.1 h⟩
    · cases h

theorem Built.log_target {c : Command} {p : P} (hr : r.Built) (ha : r.accepts c.name = true)
    {entry : LogEntry} (h : entry ∈ (r.target c p).log) :
    ∃ v, entry = .noChildMatches r.member c.name v := by
  obtain ⟨property, hk⟩ := hr.exists_key ha
  rw [target] at h
  split at h
  · cases h
  · exact log_targetByKey hk h
  · exact log_targetByKey hk h

end Relation

theorem mem_log_routeCommand {c : Command} {p : P} {entry : LogEntry}
    (h : entry ∈ (routeCommand c p rs).log) :
    ∃ r ∈ rs, r.accepts c.name = true ∧ entry ∈ (r.target c p).log := by
  rw [log_routeCommand, List.mem_flatMap] at h
  obtain ⟨r, hr, hentry⟩ := h
  split at hentry
  · next ha => exact ⟨r, (List.takeWhile_prefix _).subset hr, ha, hentry⟩
  · cases hentry

/-- A relation that was built is complete. So no relation that accepts a command lacks its entry,
which would be reported, and an event is answered without regard to what a missing identifier or
filter would lead to. -/
theorem tryBuild_complete :
    (∀ (config : Config) (declaring : EntityModel) (kind : ChildKind) (m : Member P)
        (r : Relation P), Relation.tryBuild config declaring kind m = .ok (some r) →
        r.Complete config kind m)
    ∧ ∀ rs : List (Relation P), (∀ r ∈ rs, r.Built) → ∀ (c : Command) (e : Event) (p : P),
        (∀ r ∈ rs, r.accepts c.name = true →
          ∃ property, r.routingKeys.property? c.name = some property)
        ∧ (∀ entry ∈ (routeCommand c p rs).log, ∀ id name, entry ≠ .commandNotHandled id name)
        ∧ (∀ r ∈ rs, r.mode = .routingKey → ∃ identifier, r.identifier = some identifier
            ∧ r.recipients e p
                = if r.children p = [] then .quiet []
                  else match r.hook e r.eventKey r.strategies with
                    | none => .reporting (.eventWithoutValue r.member e.name r.eventKey) []
                    | some v => .quiet ((r.children p).filter (identifier.value? · == some v)))
        ∧ ∀ r ∈ rs, r.mode = .custom → ∃ filter, r.filter = some filter
            ∧ r.recipients e p
                = .quiet (if r.children p = [] then [] else filter e (r.children p)) := by
  refine ⟨fun _ _ _ _ _ h => Relation.complete_of_tryBuild h, fun rs hrs c e p => ⟨?_, ?_, ?_, ?_⟩⟩
  · intro r hr ha
    exact (hrs r hr).exists_key ha
  · intro entry h id name
    obtain ⟨r, hr, ha, h⟩ := mem_log_routeCommand h
    obtain ⟨v, rfl⟩ := (hrs r hr).log_target ha h
    exact nofun
  · intro r hr hm
    obtain ⟨identifier, hid⟩ := (hrs r hr).exists_identifier hm
    exact ⟨identifier, hid, Relation.recipients_of_routingKey hm hid⟩
  · intro r hr hm
    obtain ⟨filter, hf⟩ := (hrs r hr).exists_filter hm
    exact ⟨filter, hf, Relation.recipients_of_custom hm hf⟩

theorem exists_tryBuild_of_inspect {ms : List (Member P)}
    (h : (config.inspect declaring ms).value = .ok rs) (hr : r ∈ rs) :
    ∃ kind m, Relation.tryBuild config declaring kind m = .ok (some r) := by
  obtain ⟨metadata, hr⟩ := Config.wellBuilt_of_mem_inspect h hr
  exact ⟨r.kind, r.source, Relation.tryBuild_eq_ok_some_iff_wellBuilt.2 ⟨rfl, metadata, hr⟩⟩

open Shop in
/-- The relations of the shop are complete, and a change of a line that the order does not have
leaves no report of a missing entry. -/
theorem shop_relations_complete :
    (Shop.config.inspect orderModel routedMembers).value = .ok relations
    ∧ relations.map (·.kind) = [.single, .sequence, .sequence, .keyed]
    ∧ (∀ r ∈ relations, ∃ kind m, r.Complete Shop.config kind m)
    ∧ ∀ entry ∈ (routeCommand (changeLineQty.commandOf [("line_id", .int 3)]) stocked
        relations).log, ∀ id name, entry ≠ .commandNotHandled id name := by
  have hbuilt : ∀ r ∈ relations, ∃ kind m,
      Relation.tryBuild Shop.config orderModel kind m = .ok (some r) :=
    fun r hr => exists_tryBuild_of_inspect inspect_eq hr
  obtain ⟨hcomplete, hrouting⟩ := tryBuild_complete (P := Order)
  refine ⟨inspect_eq, by decide +kernel, fun r hr => ?_, ?_⟩
  · obtain ⟨kind, m, h⟩ := hbuilt r hr
    exact ⟨kind, m, hcomplete Shop.config orderModel kind m r h⟩
  · have hrs : ∀ r ∈ relations, r.Built := fun r hr => by
      obtain ⟨kind, m, h⟩ := hbuilt r hr
      exact ⟨Shop.config, orderModel, kind, m, h⟩
    obtain ⟨-, hlog, -⟩ := hrouting relations hrs
      (changeLineQty.commandOf [("line_id", .int 3)]) (lineShipped.eventOf "line.shipped" [])
      stocked
    exact hlog

end AggregateRouting
