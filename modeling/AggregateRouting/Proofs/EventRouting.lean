import AggregateRouting.Proofs.CommandRouting

/-! # Where an event goes

What the configuration says of an event and a member, without a relation: the part of the member's
children to which the event passes (`eventShare`). An event goes to the shares of all members in
order (`routeEvent_eq_shares`), and outside of custom forwarding a share consists of the children
that the event concerns, each in its place (`IsSelection`). -/

namespace AggregateRouting
variable {P : Type} {config : Config} {declaring : EntityModel} {m : Member P}
  {ms : List (Member P)} {metadata : Metadata} {model : EntityModel} {r : Relation P}
  {rs : List (Relation P)}

/-- The entries of `l` for which `q` holds, each position once and in ascending order. -/
def IsSelection {α : Type} (q : α → Bool) (l picked : List α) : Prop :=
  ∃ positions : List Nat, positions.Pairwise (· < ·)
    ∧ (∀ i, i ∈ positions ↔ ∃ a, l[i]? = some a ∧ q a = true)
    ∧ picked = positions.filterMap (l[·]?)

theorem filter_eq_filterMap_findIdxs {α : Type} (q : α → Bool) (l : List α) :
    l.filter q = (l.findIdxs q).filterMap (l[·]?) := by
  induction l with
  | nil => rfl
  | cons a l ih =>
    have htail : ((l.findIdxs q 1).filterMap ((a :: l)[·]?)) = l.filter q := by
      rw [List.findIdxs_start, List.filterMap_map, ih]
      rfl
    rw [List.findIdxs_cons, List.filter_cons]
    by_cases ha : q a = true
    · rw [if_pos ha, if_pos ha, List.filterMap_cons, htail]
      rfl
    · rw [if_neg ha, if_neg ha, htail]

theorem isSelection_filter {α : Type} (q : α → Bool) (l : List α) :
    IsSelection q l (l.filter q) := by
  refine ⟨l.findIdxs q, List.pairwise_findIdxs, fun i => ?_, filter_eq_filterMap_findIdxs q l⟩
  rw [List.mem_findIdxs_iff_exists_getElem_pos]
  constructor
  · rintro ⟨hi, hq⟩
    exact ⟨l[i], List.getElem?_eq_getElem hi, hq⟩
  · rintro ⟨a, ha, hq⟩
    obtain ⟨hi, rfl⟩ := List.getElem?_eq_some_iff.1 ha
    exact ⟨hi, hq⟩

namespace Config

/-- The routing value that the hook derives from an event for the children of a member: under the
key of the member's metadata or else that of the model. -/
def eventValue? (config : Config) (metadata : Metadata) (model : EntityModel) (e : Event) :
    Option RoutingValue :=
  config.hook e (metadata.eventRoutingKey.getD model.routingKey) config.strategies

/-- The part of some children to which an event passes by the metadata of their member. -/
def shareOf (config : Config) (metadata : Metadata) (model : EntityModel) (e : Event)
    (children : List Record) : List Record :=
  match metadata.effectiveMode with
  | .none => []
  | .all => children
  | .routingKey =>
    match config.eventValue? metadata model e with
    | none => []
    | some v => children.filter fun child => config.identifierValue? model child = some v
  | .custom =>
    match metadata.filter with
    | none => []
    | some filter => if children = [] then [] else filter e children

def eventShare (config : Config) (e : Event) (p : P) (m : Member P) : List Record :=
  match m.metadata, config.modelFor? m with
  | some metadata, some model => config.shareOf metadata model e (m.slot.children p)
  | _, _ => []

/-- Whether an event is for a child, where no filter decides that. -/
def concerns (config : Config) (metadata : Metadata) (model : EntityModel) (e : Event)
    (child : Record) : Bool :=
  match metadata.effectiveMode with
  | .none | .custom => false
  | .all => true
  | .routingKey =>
    (config.eventValue? metadata model e).any fun v => config.identifierValue? model child = some v

theorem shareOf_eq_filter (hm : metadata.effectiveMode ≠ .custom) (e : Event)
    (children : List Record) :
    config.shareOf metadata model e children
      = children.filter (config.concerns metadata model e) := by
  unfold shareOf concerns
  cases hmode : metadata.effectiveMode with
  | none => simp
  | all => simp
  | custom => exact absurd hmode hm
  | routingKey => cases config.eventValue? metadata model e <;> simp

end Config

namespace Relation
variable {e : Event} {p : P}

def eventValue? (r : Relation P) (e : Event) : Option RoutingValue :=
  r.hook e r.eventKey r.strategies

theorem recipients_of_none (hm : r.mode = .none) : r.recipients e p = .quiet [] := by
  rw [recipients, candidates, if_pos hm]

theorem recipients_of_all (hm : r.mode = .all) : r.recipients e p = .quiet (r.children p) := by
  rw [recipients, candidates, if_neg (by simp [hm]), hm]
  cases r.children p <;> rfl

theorem recipients_eq_recipientsByKey (hm : r.mode = .routingKey) :
    r.recipients e p
      = if r.children p = [] then .quiet [] else r.recipientsByKey e (r.children p) := by
  rw [recipients, candidates, if_neg (by simp [hm]), hm]
  cases r.children p with
  | nil => rfl
  | cons child children => rw [if_neg (List.cons_ne_nil _ _)]

theorem recipients_of_routingKey (hm : r.mode = .routingKey) {identifier : Property}
    (hid : r.identifier = some identifier) :
    r.recipients e p
      = if r.children p = [] then .quiet []
        else match r.hook e r.eventKey r.strategies with
          | none => .reporting (.eventWithoutValue r.member e.name r.eventKey) []
          | some v => .quiet ((r.children p).filter (identifier.value? · == some v)) := by
  rw [recipients_eq_recipientsByKey hm, recipientsByKey]
  cases r.hook e r.eventKey r.strategies <;> simp only [hid]

theorem value_recipientsByKey (children : List Record) :
    (r.recipientsByKey e children).value
      = match r.eventValue? e with
        | none => []
        | some v => children.filter (r.identifies v) := by
  unfold recipientsByKey eventValue?
  cases hid : r.identifier with
  | some identifier =>
    simp only [identifies_of_identifier hid]
    cases r.hook e r.eventKey r.strategies <;> rfl
  | none =>
    -- Nobody is identified, so the fallback is what the filter would give.
    have hno (v : RoutingValue) : r.identifies v = fun _ => false := by
      funext child
      rw [identifies, hid]
    simp only [hno, List.filter_false]
    cases r.hook e r.eventKey r.strategies <;> rfl

theorem value_recipients_of_routingKey (hm : r.mode = .routingKey) :
    (r.recipients e p).value
      = match r.eventValue? e with
        | none => []
        | some v => (r.children p).filter (r.identifies v) := by
  rw [recipients_eq_recipientsByKey hm, ← value_recipientsByKey]
  by_cases hc : r.children p = []
  · rw [if_pos hc, hc, value_recipientsByKey]
    cases r.eventValue? e <;> rfl
  · rw [if_neg hc]

theorem recipients_of_custom (hm : r.mode = .custom) {filter : EventFilter}
    (hf : r.filter = some filter) :
    r.recipients e p
      = .quiet (if r.children p = [] then [] else filter e (r.children p)) := by
  rw [recipients, candidates, if_neg (by simp [hm]), hm]
  cases r.children p with
  | nil => rfl
  | cons child children =>
    rw [if_neg (List.cons_ne_nil _ _)]
    simp only [hf]

namespace WellBuilt

theorem eventShare_eq (h : WellBuilt config declaring m metadata r) :
    config.eventShare e p m = config.shareOf metadata r.model e (m.slot.children p) := by
  rw [Config.eventShare, h.metadata_eq, h.model_eq]

theorem eventValue?_eq (h : WellBuilt config declaring m metadata r) :
    r.eventValue? e = config.eventValue? metadata r.model e := by
  rw [eventValue?, eventKey, h.hook_eq, h.eventRoutingKey_eq, h.strategies_eq, Config.eventValue?]

theorem value_recipients (h : WellBuilt config declaring m metadata r) :
    (r.recipients e p).value = config.shareOf metadata r.model e (m.slot.children p) := by
  have hmode := h.mode_eq
  rw [Config.shareOf, ← hmode, ← h.children_eq]
  cases hm : r.mode with
  | none => rw [recipients_of_none hm, Logged.value_quiet]
  | all => rw [recipients_of_all hm, Logged.value_quiet]
  | routingKey =>
    rw [value_recipients_of_routingKey hm, h.eventValue?_eq]
    cases config.eventValue? metadata r.model e with
    | none => rfl
    | some v =>
      dsimp only
      rw [h.identifies_eq]
  | custom =>
    obtain ⟨filter, hf⟩ := Option.isSome_iff_exists.1 (h.filtered hm)
    have hmeta : metadata.filter = some filter := by rw [← hf, h.filter_eq, if_pos hm]
    rw [recipients_of_custom hm hf, hmeta, Logged.value_quiet]

end WellBuilt
end Relation

theorem map_recipients_of_inspect (h : (config.inspect declaring ms).value = .ok rs) (e : Event)
    (p : P) :
    rs.map (fun r => (r.recipients e p).value)
      = (ms.filter config.takes).map (config.eventShare e p) :=
  Config.map_eq_map_of_inspect (fun hr => hr.value_recipients.trans hr.eventShare_eq.symm) h

/-- An event goes to the shares of the members that the configuration takes, one after the other.
Without a filter a share selects the children that the event concerns. -/
theorem routeEvent_eq_shares (h : (config.inspect declaring ms).value = .ok rs) (e : Event)
    (p : P) :
    (routeEvent e p rs).value = (ms.filter config.takes).flatMap (config.eventShare e p)
    ∧ rs.map (fun r => (r.recipients e p).value)
        = (ms.filter config.takes).map (config.eventShare e p)
    ∧ ∀ m ∈ ms, config.takes m = true →
        ∃ metadata model, m.metadata = some metadata ∧ config.modelFor? m = some model
          ∧ (metadata.effectiveMode = .routingKey →
              (config.findProperty model.entity model.routingKey).isSome = true)
          ∧ (metadata.effectiveMode = .custom → metadata.filter.isSome = true)
          ∧ config.eventShare e p m = config.shareOf metadata model e (m.slot.children p)
          ∧ (metadata.effectiveMode ≠ .custom →
              IsSelection (config.concerns metadata model e) (m.slot.children p)
                (config.eventShare e p m)) := by
  have hmap := map_recipients_of_inspect h e p
  refine ⟨?_, hmap, fun m hm ht => ?_⟩
  · rw [value_routeEvent, List.flatMap_def, hmap, ← List.flatMap_def]
  · obtain ⟨r, metadata, hr⟩ := Config.exists_wellBuilt_of_inspect h hm ht
    have hshare := hr.eventShare_eq (e := e) (p := p)
    refine ⟨metadata, r.model, hr.metadata_eq, hr.model_eq, fun hmode => ?_, fun hmode => ?_,
      hshare, fun hmode => ?_⟩
    · rw [← hr.identifier_eq]
      exact hr.identified (.inr (hr.mode_eq.trans hmode))
    · have hmode' := hr.mode_eq.trans hmode
      have hf := hr.filtered hmode'
      rwa [hr.filter_eq, if_pos hmode'] at hf
    · rw [hshare, Config.shareOf_eq_filter hmode]
      exact isSelection_filter _ _

theorem Shop.map_label_routeEvent :
    (routeEvent (lineShipped.eventOf "line.shipped" [("line_id", .int 2)]) stocked
      relations).value.map label = ["Line:l2", "Line:l2", "Line:l1"] := by
  decide +kernel

open Shop in
/-- In the shop the shipping of the second line is told to that line, found by its key, and to the
lines of the ring from the last to the first; the wide records have no key for it. -/
theorem shipped_line_is_told_to_lines :
    (Shop.config.inspect orderModel routedMembers).value = .ok relations
    ∧ ((routedMembers.filter Shop.config.takes).flatMap
        (Shop.config.eventShare (lineShipped.eventOf "line.shipped" [("line_id", .int 2)])
          stocked)).map label = ["Line:l2", "Line:l2", "Line:l1"] := by
  obtain ⟨hroute, -⟩ := routeEvent_eq_shares inspect_eq
    (lineShipped.eventOf "line.shipped" [("line_id", .int 2)]) stocked
  rw [← hroute]
  exact ⟨inspect_eq, by decide +kernel⟩

end AggregateRouting
