import AggregateRouting.Proofs.InspectedRelations
import AggregateRouting.Routing
import AggregateRouting.Shop.Setup

/-! # Where a command goes

What the configuration says of a command and a member, without a relation: whether the command may
pass to the member's children (`passesCommand`) and which of them it is for (`addressee?`). A built
relation answers as its member does (`WellBuilt.accepts_eq`, `WellBuilt.value_target`), so a command
goes to the addressee of the first member that passes it and has one. -/

namespace AggregateRouting
variable {P : Type} {config : Config} {declaring : EntityModel} {m : Member P}
  {ms : List (Member P)} {metadata : Metadata} {r : Relation P} {rs : List (Relation P)}

namespace Config

/-- Whether a command may pass to the children of a member: the member forwards commands, and the
model of its children has a handler for it. -/
def passesCommand (config : Config) (m : Member P) (command : String) : Bool :=
  m.metadata.any (·.forwardsCommands)
    && (config.modelFor? m).any (·.handlers.any (·.command == command))

/-- The value by which the entities of a model are told apart. -/
def identifierValue? (config : Config) (model : EntityModel) (child : Record) :
    Option RoutingValue :=
  (config.findProperty model.entity model.routingKey).bind (·.value? child)

def commandValue? (config : Config) (model : EntityModel) (c : Command) : Option RoutingValue :=
  (model.routingProperty? config.strategies c.name).bind (·.value? c.payload.val)

def childByKey? (config : Config) (m : Member P) (c : Command) (p : P) : Option Record :=
  (config.modelFor? m).bind fun model =>
    (config.commandValue? model c).bind fun v =>
      (m.slot.children p).find? fun child => config.identifierValue? model child = some v

/-- The child of a member that a command is for: the only one, whatever the command carries, or the
first with its routing value. -/
def addressee? (config : Config) (m : Member P) (c : Command) (p : P) : Option Record :=
  match m.slot with
  | .single _ get => (get p).map (·.val)
  | .sequence .. | .keyed .. => config.childByKey? m c p
  | .value => none

/-- The addressee of a command among the children of a member to which the command may pass. -/
def commandTarget? (config : Config) (c : Command) (p : P) (m : Member P) : Option Record :=
  if config.passesCommand m c.name then config.addressee? m c p else none

theorem commandTarget?_eq_some_iff {c : Command} {p : P} {child : Record} :
    config.commandTarget? c p m = some child
      ↔ config.passesCommand m c.name = true ∧ config.addressee? m c p = some child := by
  unfold commandTarget?
  split <;> simp_all

theorem commandTarget?_eq_none_iff {c : Command} {p : P} :
    config.commandTarget? c p m = none
      ↔ (config.passesCommand m c.name = true → config.addressee? m c p = none) := by
  unfold commandTarget?
  split <;> simp_all

end Config

namespace Relation

def commandValue? (r : Relation P) (c : Command) : Option RoutingValue :=
  (r.routingKeys.property? c.name).bind (·.value? c.payload.val)

theorem value_targetByKey (c : Command) (p : P) :
    (r.targetByKey c p).value
      = (r.commandValue? c).bind fun v => (r.children p).find? (r.identifies v) := by
  rw [targetByKey, commandValue?]
  cases r.routingKeys.property? c.name with
  | none => rfl
  | some property =>
    dsimp only [Option.bind_some]
    cases property.value? c.payload.val with
    | none => rfl
    | some v =>
      dsimp only [Option.bind_some]
      cases (r.children p).find? (r.identifies v) <;> rfl

theorem target_of_kind (hk : r.kind ≠ .single) (c : Command) (p : P) :
    r.target c p = r.targetByKey c p := by
  unfold target
  split
  · next h => exact absurd h hk
  · rfl
  · rfl

namespace WellBuilt

theorem accepts_eq (h : WellBuilt config declaring m metadata r) (command : String) :
    r.accepts command = config.passesCommand m command := by
  have hh : r.model.handles command = r.model.handlers.any (·.command == command) := by
    rw [EntityModel.handles, EntityModel.handler?, List.isSome_find?]
  rw [accepts, Relation.handles, Config.passesCommand, h.metadata_eq, h.model_eq,
    h.forwardsCommands_eq, hh]
  rfl

theorem children_eq (h : WellBuilt config declaring m metadata r) (p : P) :
    r.children p = m.slot.children p := by
  rw [Relation.children, h.source_eq]

theorem identifies_eq (h : WellBuilt config declaring m metadata r) (v : RoutingValue) :
    r.identifies v = fun child => decide (config.identifierValue? r.model child = some v) := by
  funext child
  rw [identifies, Config.identifierValue?, h.identifier_eq]
  cases config.findProperty r.model.entity r.model.routingKey with
  | none => rfl
  | some p => exact beq_eq_decide (a := p.value? child) (b := some v)

theorem commandValue?_eq (h : WellBuilt config declaring m metadata r) (c : Command) :
    r.commandValue? c = config.commandValue? r.model c := by
  rw [commandValue?, RoutingKeys.property?_eq h.entries, Config.commandValue?]

theorem value_targetByKey (h : WellBuilt config declaring m metadata r) (c : Command) (p : P) :
    (r.targetByKey c p).value = config.childByKey? m c p := by
  rw [Relation.value_targetByKey, h.commandValue?_eq, h.children_eq, Config.childByKey?,
    h.model_eq, Option.bind_some]
  cases config.commandValue? r.model c with
  | none => rfl
  | some v => rw [Option.bind_some, Option.bind_some, h.identifies_eq]

theorem value_target (h : WellBuilt config declaring m metadata r) (c : Command) (p : P) :
    (r.target c p).value = config.addressee? m c p := by
  have hk : m.slot.kind? = some r.kind := h.kind_eq
  rw [target, Config.addressee?]
  cases hs : m.slot with
  | value =>
    rw [hs] at hk
    cases hk
  | single t get =>
    have hkind : r.kind = .single := by simpa [hs, Slot.kind?, eq_comm] using hk
    rw [hkind, h.children_eq, hs]
    cases hg : get p <;> simp [Slot.children, hg]
  | sequence t get =>
    have hkind : r.kind = .sequence := by simpa [hs, Slot.kind?, eq_comm] using hk
    rw [hkind]
    exact h.value_targetByKey c p
  | keyed t values =>
    have hkind : r.kind = .keyed := by simpa [hs, Slot.kind?, eq_comm] using hk
    rw [hkind]
    exact h.value_targetByKey c p

end WellBuilt
end Relation

theorem value_routeCommand_of_inspect (h : (config.inspect declaring ms).value = .ok rs)
    (c : Command) (p : P) :
    (routeCommand c p rs).value
      = rs.findSome? fun r => (config.commandTarget? c p r.source).map (Target.mk r) := by
  rw [value_routeCommand]
  have hr : ∀ r ∈ rs, r.accepts c.name = config.passesCommand r.source c.name
      ∧ (r.target c p).value = config.addressee? r.source c p := by
    intro r hr
    obtain ⟨metadata, hr⟩ := Config.wellBuilt_of_mem_inspect h hr
    exact ⟨hr.accepts_eq c.name, hr.value_target c p⟩
  -- The inspection is of all members at once; the induction needs what it says of each relation.
  clear h
  induction rs with
  | nil => rfl
  | cons r rs ih =>
    obtain ⟨haccepts, htarget⟩ := hr r (List.mem_cons_self ..)
    have ih := ih fun r' hr' => hr r' (List.mem_cons_of_mem _ hr')
    rw [List.findSome?_cons, ← ih, Config.commandTarget?, ← haccepts, ← htarget]
    by_cases ha : r.accepts c.name = true
    · rw [List.filter_cons, if_pos ha, if_pos ha, List.findSome?_cons]
    · rw [List.filter_cons, if_neg ha, if_neg ha]
      rfl

/-- A command goes to the addressee of the first member that the configuration takes, that passes
the command and that has an addressee for it; and to nobody exactly if there is no such member. -/
theorem routeCommand_eq_first_addressee (h : (config.inspect declaring ms).value = .ok rs)
    (c : Command) (p : P) :
    rs.map (·.source) = ms.filter config.takes
    ∧ (∀ t, (routeCommand c p rs).value = some t ↔
        ∃ before after, rs = before ++ t.relation :: after
          ∧ config.passesCommand t.relation.source c.name = true
          ∧ config.addressee? t.relation.source c p = some t.child
          ∧ ∀ r ∈ before, config.passesCommand r.source c.name = true →
              config.addressee? r.source c p = none)
    ∧ ((routeCommand c p rs).value = none ↔
        ∀ m ∈ ms, config.takes m = true → config.passesCommand m c.name = true →
          config.addressee? m c p = none) := by
  have hsource := Config.map_source_of_inspect h
  have hvalue := value_routeCommand_of_inspect h c p
  refine ⟨hsource, fun t => ?_, ?_⟩
  · rw [hvalue, List.findSome?_eq_some_iff]
    constructor
    · rintro ⟨before, r, after, hrs, hr, hbefore⟩
      obtain ⟨child, hchild, rfl⟩ := Option.map_eq_some_iff.1 hr
      obtain ⟨hpass, haddr⟩ := Config.commandTarget?_eq_some_iff.1 hchild
      exact ⟨before, after, hrs, hpass, haddr, fun r' hr' =>
        Config.commandTarget?_eq_none_iff.1 (Option.map_eq_none_iff.1 (hbefore r' hr'))⟩
    · rintro ⟨before, after, hrs, hpass, haddr, hbefore⟩
      refine ⟨before, t.relation, after, hrs, ?_, fun r' hr' => ?_⟩
      · rw [Config.commandTarget?_eq_some_iff.2 ⟨hpass, haddr⟩]
        rfl
      · rw [Config.commandTarget?_eq_none_iff.2 (hbefore r' hr')]
        rfl
  · rw [hvalue, List.findSome?_eq_none_iff]
    have hmem : (∀ r ∈ rs, config.commandTarget? c p r.source = none)
        ↔ ∀ m ∈ ms.filter config.takes, config.commandTarget? c p m = none := by
      rw [← hsource, List.forall_mem_map]
    simp only [Option.map_eq_none_iff]
    rw [hmem]
    simp only [List.mem_filter, and_imp, Config.commandTarget?_eq_none_iff]

open Shop in
/-- In the shop a change of the second line passes by the shipment, which has no handler for it, and
goes to that line. -/
theorem change_goes_to_second_line :
    (Shop.config.inspect orderModel routedMembers).value = .ok relations
    ∧ ∃ before after r child, relations = before ++ r :: after
      ∧ Shop.config.addressee? r.source (changeLineQty.commandOf [("line_id", .int 2)])
          stocked = some child
      ∧ label child = "Line:l2" := by
  have hlabel : (routeCommand (changeLineQty.commandOf [("line_id", .int 2)]) stocked
      relations).value.map (label ·.child) = some "Line:l2" := by decide +kernel
  obtain ⟨t, ht, hlabel⟩ := Option.map_eq_some_iff.1 hlabel
  obtain ⟨before, after, hsplit, -, haddr, -⟩ :=
    ((routeCommand_eq_first_addressee inspect_eq _ _).2.1 t).1 ht
  exact ⟨inspect_eq, before, after, t.relation, t.child, hsplit, haddr, hlabel⟩

end AggregateRouting
