import AggregateRouting.Proofs.RoutingKeys
import AggregateRouting.Relation

/-! # Built relations

`tryBuild_eq_ok_some_iff_wellBuilt`: a kind builds the relation `r` for a member exactly if `r` is
`WellBuilt`, that is, if it stores what the member, its metadata and the configuration say and has
all that its kind and its mode need. -/

namespace AggregateRouting
variable {P : Type} {config : Config} {declaring : EntityModel} {kind : ChildKind} {m : Member P}
  {metadata : Metadata} {r : Relation P}

namespace Config

def modelFor? (config : Config) (m : Member P) : Option EntityModel :=
  m.childType?.bind config.registry.modelOf?

theorem modelFor?_eq_some_iff {model : EntityModel} :
    config.modelFor? m = some model
      ↔ ∃ t, m.childType? = some t ∧ config.registry.modelOf? t = some model :=
  Option.bind_eq_some_iff

theorem childModel_eq_ok_iff {id : MemberId} {model : EntityModel} :
    config.childModel id m = .ok model ↔ config.modelFor? m = some model := by
  unfold childModel modelFor?
  cases m.childType? with
  | none => simp
  | some t => cases h : config.registry.modelOf? t <;> simp [h]

end Config

namespace Relation

theorem needsIdentifier_iff {mode : ForwardingMode} :
    needsIdentifier kind mode = true ↔ kind ≠ .single ∨ mode = .routingKey := by
  simp [needsIdentifier]

theorem identifierFor_eq_ok_iff {id : MemberId} {mode : ForwardingMode} {model : EntityModel}
    {identifier : Option Property} :
    identifierFor config id kind mode model = .ok identifier
      ↔ identifier = config.findProperty model.entity model.routingKey
        ∧ (kind ≠ .single ∨ mode = .routingKey → identifier.isSome = true) := by
  rw [← needsIdentifier_iff]
  unfold identifierFor
  cases config.findProperty model.entity model.routingKey with
  | some p =>
    constructor
    · rintro ⟨⟩
      exact ⟨rfl, fun _ => rfl⟩
    · rintro ⟨rfl, -⟩
      rfl
  | none =>
    cases needsIdentifier kind mode with
    | true =>
      constructor
      · rintro ⟨⟩
      · rintro ⟨rfl, h⟩
        cases h rfl
    | false =>
      constructor
      · rintro ⟨⟩
        exact ⟨rfl, nofun⟩
      · rintro ⟨rfl, -⟩
        rfl

theorem filterFor_eq_ok_iff {id : MemberId} {filter : Option EventFilter} :
    filterFor id metadata = .ok filter
      ↔ filter = (if metadata.effectiveMode = .custom then metadata.filter else none)
        ∧ (metadata.effectiveMode = .custom → filter.isSome = true) := by
  unfold filterFor
  split
  next hc =>
    rw [if_pos hc]
    split
    next f hf =>
      constructor
      · rintro ⟨⟩
        exact ⟨hf.symm, fun _ => rfl⟩
      · rintro ⟨h, -⟩
        rw [h, hf]
    next hf =>
      constructor
      · rintro ⟨⟩
      · rintro ⟨rfl, h⟩
        rw [hf] at h
        cases h hc
  next hc =>
    rw [if_neg hc]
    constructor
    · rintro ⟨⟩
      exact ⟨rfl, fun h => absurd h hc⟩
    · rintro ⟨rfl, -⟩
      rfl

/-- A relation stores what its member, the metadata and the configuration say, and has all that its
kind and its mode need. -/
structure WellBuilt (config : Config) (declaring : EntityModel) (m : Member P)
    (metadata : Metadata) (r : Relation P) : Prop where
  source_eq : r.source = m
  member_eq : r.member = ⟨declaring.entity.name, m.name⟩
  kind_eq : m.kind? = some r.kind
  metadata_eq : m.metadata = some metadata
  model_eq : config.modelFor? m = some r.model
  forwardsCommands_eq : r.forwardsCommands = metadata.forwardsCommands
  mode_eq : r.mode = metadata.effectiveMode
  eventRoutingKey_eq : r.eventRoutingKey = metadata.eventRoutingKey
  hook_eq : r.hook = config.hook
  strategies_eq : r.strategies = config.strategies
  commands : r.model.DistinctCommands
  entries : List.Forall₂ (RoutingKeys.IsEntry config.strategies r.model) r.model.handlers
    r.routingKeys
  identifier_eq : r.identifier = config.findProperty r.model.entity r.model.routingKey
  identified : r.kind ≠ .single ∨ r.mode = .routingKey → r.identifier.isSome = true
  filter_eq : r.filter = if r.mode = .custom then metadata.filter else none
  filtered : r.mode = .custom → r.filter.isSome = true

theorem build_eq_ok_iff (hk : m.kind? = some kind) (hm : m.metadata = some metadata) :
    build config declaring kind m metadata = .ok r
      ↔ r.kind = kind ∧ WellBuilt config declaring m metadata r := by
  simp only [build, Except.bind_eq_ok_iff, Config.childModel_eq_ok_iff,
    RoutingKeys.ofModel_eq_ok_iff, identifierFor_eq_ok_iff, filterFor_eq_ok_iff]
  constructor
  · rintro ⟨model, hmodel, keys, ⟨hdist, hkeys⟩, identifier, ⟨hi, hneed⟩, filter, ⟨hf, hfneed⟩, ⟨⟩⟩
    exact ⟨rfl, rfl, rfl, hk, hm, hmodel, rfl, rfl, rfl, rfl, rfl, hdist, hkeys, hi, hneed, hf,
      hfneed⟩
  · rintro ⟨rfl, h⟩
    have hmode := h.mode_eq
    refine ⟨r.model, h.model_eq, r.routingKeys, ⟨h.commands, h.entries⟩, r.identifier,
      ⟨h.identifier_eq, hmode ▸ h.identified⟩, r.filter,
      ⟨hmode ▸ h.filter_eq, hmode ▸ h.filtered⟩, ?_⟩
    rw [← h.member_eq, ← h.forwardsCommands_eq, ← hmode, ← h.eventRoutingKey_eq, ← h.hook_eq,
      ← h.strategies_eq, ← h.source_eq]
    rfl

theorem tryBuild_eq_ok_some_iff_wellBuilt :
    tryBuild config declaring kind m = .ok (some r)
      ↔ r.kind = kind ∧ ∃ metadata, WellBuilt config declaring m metadata r := by
  rw [tryBuild_eq_ok_some_iff]
  constructor
  · rintro ⟨hk, metadata, hm, hb⟩
    obtain ⟨hkind, h⟩ := (build_eq_ok_iff hk hm).1 hb
    exact ⟨hkind, metadata, h⟩
  · rintro ⟨rfl, metadata, h⟩
    exact ⟨h.kind_eq, metadata, h.metadata_eq,
      (build_eq_ok_iff h.kind_eq h.metadata_eq).2 ⟨rfl, h⟩⟩

theorem tryBuild_eq_ok_none_iff :
    tryBuild config declaring kind m = .ok none ↔ m.metadata = none ∨ m.kind? ≠ some kind := by
  unfold tryBuild
  cases m.metadata with
  | none => simp
  | some metadata =>
    by_cases hk : m.kind? = some kind
    · cases hb : build config declaring kind m metadata <;> simp [hk, hb, Except.map]
    · simp [hk]

end Relation
end AggregateRouting
