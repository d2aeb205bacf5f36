import AggregateRouting.Proofs.EventRouting
import AggregateRouting.Proofs.InspectionLog

/-! # Commands and events do not interfere

Two runs, each an inspection followed by routing, are compared part by part. What routing reads of
a relation is collected in `Relation.SameForCommands` and `Relation.SameForEvents`, and relations
that are well built from configurations that say the same of commands (of events) are the same for
commands (for events). So commands are routed alike whatever is configured for events, and events
are routed alike whatever is configured for commands (`commands_and_events_independent`). -/

namespace Option
variable {α β : Type} {R S : α → β → Prop} {x : Option α} {y : Option β}

theorem Rel.imp (hRS : ∀ a b, R a b → S a b) (h : Rel R x y) : Rel S x y := by
  cases h with
  | none => exact .none
  | some hab => exact .some (hRS _ _ hab)

theorem Rel.flip (h : Rel R x y) : Rel (fun b a => R a b) y x := by
  cases h with
  | none => exact .none
  | some hab => exact .some hab

theorem Rel.isSome_eq (h : Rel R x y) : x.isSome = y.isSome := by
  cases h <;> rfl

theorem Rel.of_eq_some {a : α} {b : β} (h : Rel R x y) (hx : x = Option.some a)
    (hy : y = Option.some b) : R a b := by
  cases h with
  | none => cases hx
  | some hab =>
    cases hx
    cases hy
    exact hab

theorem Rel.map_right {f : α → β} (hf : ∀ a, R a (f a)) (x : Option α) : Rel R x (x.map f) := by
  cases x with
  | none => exact .none
  | some a => exact .some (hf a)

end Option

namespace AggregateRouting
variable {P : Type} {config config' : Config} {declaring : EntityModel} {kind : ChildKind}
  {m m' : Member P} {ms ms' : List (Member P)} {metadata metadata' : Metadata}
  {r r' : Relation P} {rs rs' : List (Relation P)} {e : ConfigError}

/-! ### What routing reads of a relation -/

namespace Relation

theorem identifies_congr (h : r.identifier = r'.identifier) : r.identifies = r'.identifies := by
  funext v child
  rw [identifies, identifies, h]

/-- Two relations that agree in all that the routing of a command reads. -/
structure SameForCommands (r r' : Relation P) : Prop where
  member : r.member = r'.member
  kind : r.kind = r'.kind
  slot : r.source.slot = r'.source.slot
  model : r.model = r'.model
  forwardsCommands : r.forwardsCommands = r'.forwardsCommands
  routingKeys : r.routingKeys = r'.routingKeys
  identifier : r.identifier = r'.identifier

namespace SameForCommands

theorem accepts_eq (h : r.SameForCommands r') (command : String) :
    r.accepts command = r'.accepts command := by
  rw [accepts, accepts, handles, handles, h.forwardsCommands, h.model]

theorem target_eq (h : r.SameForCommands r') (c : Command) (p : P) :
    r.target c p = r'.target c p := by
  have hchildren : r.children p = r'.children p := by rw [children, children, h.slot]
  have hbyKey : r.targetByKey c p = r'.targetByKey c p := by
    rw [targetByKey, targetByKey, h.routingKeys, h.member, hchildren,
      identifies_congr h.identifier]
  rw [target, target, h.kind, hchildren, hbyKey]

end SameForCommands

structure SameForEvents (r r' : Relation P) : Prop where
  member : r.member = r'.member
  slot : r.source.slot = r'.source.slot
  mode : r.mode = r'.mode
  eventKey : r.eventKey = r'.eventKey
  identifier : r.identifier = r'.identifier
  hook : r.hook = r'.hook
  strategies : r.strategies = r'.strategies
  filter : r.filter = r'.filter

theorem SameForEvents.recipients_eq (h : r.SameForEvents r') (e : Event) (p : P) :
    r.recipients e p = r'.recipients e p := by
  have hcandidates : r.candidates p = r'.candidates p := by
    rw [candidates, candidates, children, children, h.mode, h.slot]
  have hbyKey : r.recipientsByKey e = r'.recipientsByKey e := by
    funext children
    rw [recipientsByKey, recipientsByKey, h.identifier, h.hook, h.eventKey, h.strategies, h.member]
  rw [recipients, recipients, hcandidates, h.mode, hbyKey, h.filter]

end Relation

theorem routeCommand_congr (h : List.Forall₂ Relation.SameForCommands rs rs') (c : Command)
    (p : P) :
    Option.Rel
        (fun t t' => (t.relation, t'.relation) ∈ rs.zip rs' ∧ t.child = t'.child)
        (routeCommand c p rs).value (routeCommand c p rs').value
      ∧ (routeCommand c p rs).log = (routeCommand c p rs').log := by
  induction h with
  | nil => exact ⟨.none, rfl⟩
  | @cons r r' rs rs' hr _ ih =>
    obtain ⟨hvalue, hlog⟩ := ih
    have hrest : Option.Rel
        (fun t t' => (t.relation, t'.relation) ∈ (r :: rs).zip (r' :: rs') ∧ t.child = t'.child)
        (routeCommand c p rs).value (routeCommand c p rs').value :=
      hvalue.imp fun _ _ ht => ⟨List.mem_cons_of_mem _ ht.1, ht.2⟩
    rw [routeCommand, routeCommand, hr.accepts_eq, hr.target_eq]
    by_cases ha : r'.accepts c.name = true
    · rw [if_pos ha, if_pos ha]
      simp only [Logged.value_bind, Logged.log_bind]
      cases (r'.target c p).value with
      | none => exact ⟨hrest, by rw [hlog]⟩
      | some child => exact ⟨.some ⟨List.mem_cons_self .., rfl⟩, rfl⟩
    · rw [if_neg ha, if_neg ha]
      exact ⟨hrest, hlog⟩

theorem routeEvent_congr (h : List.Forall₂ Relation.SameForEvents rs rs') (e : Event) (p : P) :
    routeEvent e p rs = routeEvent e p rs' := by
  induction h with
  | nil => rfl
  | cons hr _ ih => rw [routeEvent, routeEvent, hr.recipients_eq, ih]

/-! ### Configurations that say the same -/

/-- Two declarations that say the same of commands. -/
structure Metadata.SameForCommands (a b : Metadata) : Prop where
  forwardsCommands : a.forwardsCommands = b.forwardsCommands

/-- Two declarations that say the same of events: only commands may be forwarded by one and not by
the other. -/
structure Metadata.SameForEvents (a b : Metadata) : Prop where
  forwardsEvents : a.forwardsEvents = b.forwardsEvents
  mode : a.mode = b.mode
  eventRoutingKey : a.eventRoutingKey = b.eventRoutingKey
  filter : a.filter = b.filter

/-- Two models that may differ in their handlers only. -/
structure EntityModel.SameForEvents (a b : EntityModel) : Prop where
  entity : a.entity = b.entity
  routingKey : a.routingKey = b.routingKey

def Registry.SameForEvents (a b : Registry) : Prop :=
  ∀ t, Option.Rel EntityModel.SameForEvents (a.modelOf? t) (b.modelOf? t)

/-- Two members that may differ in their metadata only: if one has any, the other has some to which
it is related by `R`. -/
structure Member.Alike (R : Metadata → Metadata → Prop) (m m' : Member P) : Prop where
  name : m.name = m'.name
  declaredType : m.declaredType = m'.declaredType
  slot : m.slot = m'.slot
  metadata : Option.Rel R m.metadata m'.metadata

namespace Metadata.SameForEvents
variable {a b : Metadata}

theorem refl (a : Metadata) : a.SameForEvents a :=
  ⟨rfl, rfl, rfl, rfl⟩

theorem symm (h : a.SameForEvents b) : b.SameForEvents a :=
  ⟨h.forwardsEvents.symm, h.mode.symm, h.eventRoutingKey.symm, h.filter.symm⟩

theorem effectiveMode_eq (h : a.SameForEvents b) : a.effectiveMode = b.effectiveMode := by
  rw [effectiveMode, effectiveMode, h.forwardsEvents, h.mode]

end Metadata.SameForEvents

theorem EntityModel.SameForEvents.refl (a : EntityModel) : a.SameForEvents a :=
  ⟨rfl, rfl⟩

theorem Registry.SameForEvents.refl (a : Registry) : a.SameForEvents a := by
  intro t
  cases a.modelOf? t with
  | none => exact .none
  | some model => exact .some (.refl model)

namespace Member.Alike
variable {R : Metadata → Metadata → Prop}

theorem refl (hR : ∀ a, R a a) (m : Member P) : m.Alike R m := by
  refine ⟨rfl, rfl, rfl, ?_⟩
  cases m.metadata with
  | none => exact .none
  | some metadata => exact .some (hR metadata)

theorem symm (hR : ∀ {a b}, R a b → R b a) (h : m.Alike R m') : m'.Alike R m :=
  ⟨h.name.symm, h.declaredType.symm, h.slot.symm, h.metadata.flip.imp fun _ _ hab => hR hab⟩

theorem kind?_eq (h : m.Alike R m') : m.kind? = m'.kind? := by
  rw [kind?, kind?, h.slot]

theorem childType?_eq (h : m.Alike R m') : m.childType? = m'.childType? := by
  rw [childType?, childType?, h.slot]

theorem takes_eq (h : m.Alike R m') (hkinds : config.kinds = config'.kinds) :
    config.takes m = config'.takes m' := by
  rw [Config.takes, Config.takes, h.metadata.isSome_eq, h.kind?_eq, hkinds]

end Member.Alike

namespace Relation.WellBuilt

theorem sameForCommands {hook : EventHook} (h : WellBuilt config declaring m metadata r)
    (h' : WellBuilt { config with hook := hook } declaring m' metadata' r')
    (hm : m.Alike Metadata.SameForCommands m') : r.SameForCommands r' := by
  have hmodel : r.model = r'.model := by
    have hfound : config.modelFor? m = config.modelFor? m' := by
      rw [Config.modelFor?, Config.modelFor?, hm.childType?_eq]
    exact Option.some.inj (h.model_eq.symm.trans (hfound.trans h'.model_eq))
  have hentries := h'.entries
  rw [← hmodel] at hentries
  constructor
  · rw [h.member_eq, h'.member_eq, hm.name]
  · exact Option.some.inj (h.kind_eq.symm.trans (hm.kind?_eq.trans h'.kind_eq))
  · rw [h.source_eq, h'.source_eq, hm.slot]
  · exact hmodel
  · rw [h.forwardsCommands_eq, h'.forwardsCommands_eq]
    exact (hm.metadata.of_eq_some h.metadata_eq h'.metadata_eq).forwardsCommands
  · exact RoutingKeys.eq_of_entries h.entries hentries
  · rw [h.identifier_eq, h'.identifier_eq, hmodel]
    rfl

theorem sameForEvents {registry : Registry} (hreg : config.registry.SameForEvents registry)
    (h : WellBuilt config declaring m metadata r)
    (h' : WellBuilt { config with registry := registry } declaring m' metadata' r')
    (hm : m.Alike Metadata.SameForEvents m') : r.SameForEvents r' := by
  have hmeta := hm.metadata.of_eq_some h.metadata_eq h'.metadata_eq
  have hmodel : r.model.SameForEvents r'.model := by
    obtain ⟨t, ht, hfound⟩ := Config.modelFor?_eq_some_iff.1 h.model_eq
    obtain ⟨t', ht', hfound'⟩ := Config.modelFor?_eq_some_iff.1 h'.model_eq
    obtain rfl : t = t' := Option.some.inj (ht.symm.trans (hm.childType?_eq.trans ht'))
    exact (hreg t).of_eq_some hfound hfound'
  have hmode : r.mode = r'.mode := by rw [h.mode_eq, h'.mode_eq, hmeta.effectiveMode_eq]
  constructor
  · rw [h.member_eq, h'.member_eq, hm.name]
  · rw [h.source_eq, h'.source_eq, hm.slot]
  · exact hmode
  · rw [eventKey, eventKey, h.eventRoutingKey_eq, h'.eventRoutingKey_eq, hmeta.eventRoutingKey,
      hmodel.routingKey]
  · rw [h.identifier_eq, h'.identifier_eq, hmodel.entity, hmodel.routingKey]
    rfl
  · rw [h.hook_eq, h'.hook_eq]
  · rw [h.strategies_eq, h'.strategies_eq]
  · rw [h.filter_eq, h'.filter_eq, hmode, hmeta.filter]

end Relation.WellBuilt

/-! ### Two inspections -/

theorem Relation.Fault.of_alike {id : MemberId} (hm : m.Alike Metadata.SameForEvents m')
    (hmeta : metadata.SameForEvents metadata') (hf : Fault config id kind m metadata e) :
    Fault config id kind m' metadata' e := by
  have htype := hm.childType?_eq
  have hmodel : config.modelFor? m = config.modelFor? m' := by
    rw [Config.modelFor?, Config.modelFor?, htype]
  have hmode := hmeta.effectiveMode_eq
  cases hf with
  | modelNotFound ht hnone => exact .modelNotFound (htype ▸ ht) hnone
  | routingKeys hfound hfault => exact .routingKeys (hmodel ▸ hfound) hfault
  | missingIdentifier hfound hkeyed hneed hnone =>
    exact .missingIdentifier (hmodel ▸ hfound) hkeyed (hmode ▸ hneed) hnone
  | missingFilter hfound hkeyed hid hc hnone =>
    exact .missingFilter (hmodel ▸ hfound) hkeyed (hmode ▸ hid) (hmode ▸ hc) (hmeta.filter ▸ hnone)

namespace Config

theorem forall₂_of_inspect {R : Metadata → Metadata → Prop} {S : Relation P → Relation P → Prop}
    (h : (config.inspect declaring ms).value = .ok rs)
    (h' : (config'.inspect declaring ms').value = .ok rs')
    (hkinds : config.kinds = config'.kinds) (hms : List.Forall₂ (Member.Alike R) ms ms')
    (hS : ∀ {m m' metadata metadata' r r'}, Member.Alike R m m' →
      Relation.WellBuilt config declaring m metadata r →
      Relation.WellBuilt config' declaring m' metadata' r' → S r r') : List.Forall₂ S rs rs' := by
  have htaken : List.Forall₂ (Member.Alike R) (ms.filter config.takes) (ms'.filter config'.takes) :=
    List.rel_filter (fun m m' hm => iff_of_eq (congrArg (· = true) (hm.takes_eq hkinds))) hms
  rw [inspect_eq_ok_iff] at h h'
  generalize ms.filter config.takes = taken at h htaken
  generalize ms'.filter config'.takes = taken' at h' htaken
  induction htaken generalizing rs rs' with
  | nil =>
    cases h
    cases h'
    exact .nil
  | cons hm _ ih =>
    obtain _ | ⟨⟨metadata, hr⟩, h⟩ := h
    obtain _ | ⟨⟨metadata', hr'⟩, h'⟩ := h'
    exact .cons (hS hm hr hr') (ih h h')

theorem relationOf_error_of_alike (hm : m.Alike Metadata.SameForEvents m')
    (h : (config.relationOf declaring m).value = .error e) :
    (config.relationOf declaring m').value = .error e := by
  obtain ⟨kind, hmem, h⟩ := relationOf_eq_error_iff.1 h
  obtain ⟨hk, metadata, hmeta, hf⟩ := Relation.tryBuild_eq_error_iff.1 h
  obtain ⟨metadata', hmeta'⟩ : ∃ metadata', m'.metadata = some metadata' := by
    rw [← Option.isSome_iff_exists, ← hm.metadata.isSome_eq, hmeta]
    rfl
  refine relationOf_eq_error_iff.2 ⟨kind, hmem, Relation.tryBuild_eq_error_iff.2 ?_⟩
  rw [← hm.kind?_eq, ← hm.name]
  exact ⟨hk, metadata', hmeta', hf.of_alike hm (hm.metadata.of_eq_some hmeta hmeta')⟩

theorem passes_eq_of_alike (hm : m.Alike Metadata.SameForEvents m') :
    config.passes declaring m = config.passes declaring m' := by
  cases hr : (config.relationOf declaring m).value with
  | error e => rw [passes_of_error hr, passes_of_error (relationOf_error_of_alike hm hr)]
  | ok relation? =>
    cases hr' : (config.relationOf declaring m').value with
    | error e =>
      have he := relationOf_error_of_alike (hm.symm .symm) hr'
      rw [hr] at he
      cases he
    | ok relation?' => rw [passes_of_ok hr, passes_of_ok hr']

theorem inspect_error_of_alike (hms : List.Forall₂ (Member.Alike Metadata.SameForEvents) ms ms')
    (h : (config.inspect declaring ms).value = .error e) :
    (config.inspect declaring ms').value = .error e := by
  induction hms with
  | nil => exact h
  | cons hm _ ih =>
    rw [inspect_cons_eq_error_iff] at h ⊢
    rcases h with h | ⟨hpass, h⟩
    · exact .inl (relationOf_error_of_alike hm h)
    · exact .inr ⟨passes_eq_of_alike hm ▸ hpass, ih h⟩

end Config

/-- Of two inspections that succeed, relations route a command alike although the configurations
differ in what is for events, and an event alike although they differ in what is for commands.
Whether commands are forwarded does not even matter to the success. -/
theorem commands_and_events_independent (config : Config) (declaring : EntityModel)
    (ms ms' : List (Member P)) :
    (∀ hook rs rs', List.Forall₂ (Member.Alike Metadata.SameForCommands) ms ms' →
        (config.inspect declaring ms).value = .ok rs →
        ({ config with hook := hook }.inspect declaring ms').value = .ok rs' →
        ∀ (c : Command) (p : P),
          Option.Rel
              (fun t t' => t.relation.member = t'.relation.member
                ∧ (t.relation, t'.relation) ∈ rs.zip rs' ∧ t.child = t'.child)
              (routeCommand c p rs).value (routeCommand c p rs').value
            ∧ (routeCommand c p rs).log = (routeCommand c p rs').log)
    ∧ (List.Forall₂ (Member.Alike Metadata.SameForEvents) ms ms' →
        (∃ e, (config.inspect declaring ms).value = .error e
            ∧ (config.inspect declaring ms').value = .error e)
        ∨ ∃ rs rs', (config.inspect declaring ms).value = .ok rs
            ∧ (config.inspect declaring ms').value = .ok rs'
            ∧ ∀ (e : Event) (p : P), routeEvent e p rs = routeEvent e p rs')
    ∧ ∀ registry rs rs', config.registry.SameForEvents registry →
        (config.inspect declaring ms).value = .ok rs →
        ({ config with registry := registry }.inspect declaring ms).value = .ok rs' →
        ∀ (e : Event) (p : P), routeEvent e p rs = routeEvent e p rs' := by
  refine ⟨fun hook rs rs' hms h h' c p => ?_, fun hms => ?_,
    fun registry rs rs' hreg h h' e p => ?_⟩
  · have hsame : List.Forall₂ Relation.SameForCommands rs rs' :=
      Config.forall₂_of_inspect h h' rfl hms fun hm hr hr' => hr.sameForCommands hr' hm
    obtain ⟨hvalue, hlog⟩ := routeCommand_congr hsame c p
    refine ⟨hvalue.imp fun t t' ht => ?_, hlog⟩
    exact ⟨(List.forall₂_zip hsame ht.1).member, ht⟩
  · cases h : (config.inspect declaring ms).value with
    | error e => exact .inl ⟨e, rfl, Config.inspect_error_of_alike hms h⟩
    | ok rs =>
      cases h' : (config.inspect declaring ms').value with
      | error e =>
        have hms' : List.Forall₂ (Member.Alike Metadata.SameForEvents) ms' ms :=
          (hms.imp fun _ _ hm => hm.symm .symm).flip
        have he := Config.inspect_error_of_alike hms' h'
        rw [h] at he
        cases he
      | ok rs' =>
        have hsame : List.Forall₂ Relation.SameForEvents rs rs' :=
          Config.forall₂_of_inspect h h' rfl hms
            fun hm hr hr' => hr.sameForEvents (.refl _) hr' hm
        exact .inr ⟨rs, rs', rfl, rfl, routeEvent_congr hsame⟩
  · have hms : List.Forall₂ (Member.Alike Metadata.SameForEvents) ms ms :=
      List.forall₂_same.2 fun m _ => .refl .refl m
    have hsame : List.Forall₂ Relation.SameForEvents rs rs' :=
      Config.forall₂_of_inspect h h' rfl hms fun hm hr hr' => hr.sameForEvents hreg hr' hm
    exact routeEvent_congr hsame e p

namespace Shop

def silenced (m : Member Order) : Member Order :=
  { m with
    metadata := m.metadata.map fun d =>
      { forwardsCommands := d.forwardsCommands, forwardsEvents := false } }

def unaddressed (m : Member Order) : Member Order :=
  { m with metadata := m.metadata.map fun d => { d with forwardsCommands := false } }

def passiveRegistry : Registry where
  models := registry.models.map fun model => { model with handlers := [] }
  distinct := by decide +kernel

theorem forall₂_silenced (ms : List (Member Order)) :
    List.Forall₂ (Member.Alike Metadata.SameForCommands) ms (ms.map silenced) := by
  rw [List.forall₂_map_right_iff, List.forall₂_same]
  exact fun m _ => ⟨rfl, rfl, rfl, .map_right (fun _ => ⟨rfl⟩) _⟩

theorem forall₂_unaddressed (ms : List (Member Order)) :
    List.Forall₂ (Member.Alike Metadata.SameForEvents) ms (ms.map unaddressed) := by
  rw [List.forall₂_map_right_iff, List.forall₂_same]
  exact fun m _ => ⟨rfl, rfl, rfl, .map_right (fun _ => ⟨rfl, rfl, rfl, rfl⟩) _⟩

theorem sameForEvents_passiveRegistry : registry.SameForEvents passiveRegistry := by
  intro t
  rw [Registry.modelOf?, Registry.modelOf?, passiveRegistry, List.find?_map]
  exact .map_right (fun _ => ⟨rfl, rfl⟩) _

end Shop

open Shop in
/-- In the shop a change of the second line goes to that line also where no event passes to any
member, and its shipping is told to the same lines where no command does or no model handles any. -/
theorem setup_routes_independently :
    (∃ rs, ({ Shop.config with hook := EventHook.eventName }.inspect orderModel
          (routedMembers.map silenced)).value = .ok rs
        ∧ (routeCommand (changeLineQty.commandOf [("line_id", .int 2)]) stocked rs).value.map
            (label ·.child) = some "Line:l2")
    ∧ (∃ rs, (Shop.config.inspect orderModel (routedMembers.map unaddressed)).value = .ok rs
        ∧ (routeEvent (lineShipped.eventOf "line.shipped" [("line_id", .int 2)]) stocked
            rs).value.map label = ["Line:l2", "Line:l2", "Line:l1"])
    ∧ ∃ rs, ({ Shop.config with registry := passiveRegistry }.inspect orderModel
          routedMembers).value = .ok rs
        ∧ (routeEvent (lineShipped.eventOf "line.shipped" [("line_id", .int 2)]) stocked
            rs).value.map label = ["Line:l2", "Line:l2", "Line:l1"] := by
  have hchange : (routeCommand (changeLineQty.commandOf [("line_id", .int 2)]) stocked
      relations).value.map (label ·.child) = some "Line:l2" := by decide +kernel
  refine ⟨?_, ?_, ?_⟩
  · have hok : ({ Shop.config with hook := EventHook.eventName }.inspect orderModel
        (routedMembers.map silenced)).value.isOk = true := by decide +kernel
    obtain ⟨rs, hrs⟩ := Except.exists_eq_ok_of_isOk hok
    obtain ⟨hcommands, -, -⟩ := commands_and_events_independent Shop.config orderModel routedMembers
      (routedMembers.map silenced)
    obtain ⟨hsame, -⟩ := hcommands _ relations rs (forall₂_silenced _) inspect_eq hrs
      (changeLineQty.commandOf [("line_id", .int 2)]) stocked
    refine ⟨rs, hrs, ?_⟩
    obtain ⟨t, ht, hlabel⟩ := Option.map_eq_some_iff.1 hchange
    have hsome := hsame.isSome_eq
    rw [ht] at hsome
    obtain ⟨t', ht'⟩ := Option.isSome_iff_exists.1 hsome.symm
    rw [ht', Option.map_some, ← (hsame.of_eq_some ht ht').2.2, hlabel]
  · obtain ⟨-, hevents, -⟩ := commands_and_events_independent Shop.config orderModel routedMembers
      (routedMembers.map unaddressed)
    obtain ⟨e, he, -⟩ | ⟨rs, rs', hrs, hrs', hsame⟩ := hevents (forall₂_unaddressed _)
    · rw [inspect_eq] at he
      cases he
    · obtain rfl : relations = rs := Except.ok.inj (inspect_eq.symm.trans hrs)
      exact ⟨rs', hrs', hsame _ stocked ▸ map_label_routeEvent⟩
  · have hok : ({ Shop.config with registry := passiveRegistry }.inspect orderModel
        routedMembers).value.isOk = true := by decide +kernel
    obtain ⟨rs, hrs⟩ := Except.exists_eq_ok_of_isOk hok
    obtain ⟨-, -, hhandlers⟩ := commands_and_events_independent Shop.config orderModel routedMembers
      routedMembers
    have hsame := hhandlers _ relations rs sameForEvents_passiveRegistry inspect_eq hrs
    exact ⟨rs, hrs, hsame _ stocked ▸ map_label_routeEvent⟩

end AggregateRouting
