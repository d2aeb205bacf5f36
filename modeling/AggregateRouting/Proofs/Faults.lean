import AggregateRouting.Proofs.Construction
import AggregateRouting.Shop.Setup

/-! # Faults of a configuration

What comes out when a kind tries to build the relation of a member (`tryBuild_outcome`): nothing if
the member is not one for that kind, a relation if the configuration is `Sound` for it, and
otherwise the `Fault` that the first check to fail has found. The checks are for the model, the
routing keys, the identifier and the filter, in that order. -/

namespace AggregateRouting
variable {P : Type} {config : Config} {declaring : EntityModel} {kind : ChildKind} {m : Member P}
  {metadata : Metadata} {model : EntityModel} {id : MemberId} {e : ConfigError}

theorem Member.exists_childType? (hk : m.kind? = some kind) : ∃ t, m.childType? = some t := by
  unfold Member.kind? at hk
  unfold Member.childType?
  cases hs : m.slot with
  | value =>
    rw [hs] at hk
    cases hk
  | single t | sequence t | keyed t => exact ⟨t, rfl⟩

theorem Config.childModel_eq_error_iff (hk : m.kind? = some kind) :
    config.childModel id m = .error e
      ↔ ∃ t, m.childType? = some t ∧ config.registry.modelOf? t = none
        ∧ e = .modelNotFound t.name id.text := by
  obtain ⟨t, ht⟩ := Member.exists_childType? hk
  rw [Config.childModel, ht]
  cases h : config.registry.modelOf? t <;> simp [h, eq_comm]

namespace Relation

theorem identifierFor_eq_error_iff {mode : ForwardingMode} :
    identifierFor config id kind mode model = .error e
      ↔ (kind ≠ .single ∨ mode = .routingKey)
        ∧ config.findProperty model.entity model.routingKey = none
        ∧ e = .missingIdentifierProperty model.entity.name model.routingKey id.text := by
  rw [← needsIdentifier_iff]
  unfold identifierFor
  cases config.findProperty model.entity model.routingKey <;>
    cases needsIdentifier kind mode <;> simp [eq_comm]

theorem filterFor_eq_error_iff :
    filterFor id metadata = .error e
      ↔ metadata.effectiveMode = .custom ∧ metadata.filter = none ∧ e = .missingFilter id.text := by
  unfold filterFor
  cases metadata.effectiveMode <;> cases metadata.filter <;> simp [eq_comm]

/-- The configuration has all that the relation of a member of some kind needs. -/
structure Sound (config : Config) (kind : ChildKind) (m : Member P) (metadata : Metadata)
    (model : EntityModel) : Prop where
  found : config.modelFor? m = some model
  keyed : RoutingKeys.Keyed config.strategies model model.handlers
  identified : kind ≠ .single ∨ metadata.effectiveMode = .routingKey →
    (config.findProperty model.entity model.routingKey).isSome = true
  filtered : metadata.effectiveMode = .custom → metadata.filter.isSome = true

/-- What the first check to fail has found wrong. A check is made only if those before it pass. -/
inductive Fault (config : Config) (id : MemberId) (kind : ChildKind) (m : Member P)
    (metadata : Metadata) : ConfigError → Prop
  | modelNotFound {t : RecordType} (child : m.childType? = some t)
      (unknown : config.registry.modelOf? t = none) :
      Fault config id kind m metadata (.modelNotFound t.name id.text)
  | routingKeys {model : EntityModel} {e : ConfigError} (found : config.modelFor? m = some model)
      (fault : RoutingKeys.FirstFault config.strategies id model e) :
      Fault config id kind m metadata e
  | missingIdentifier {model : EntityModel} (found : config.modelFor? m = some model)
      (keyed : RoutingKeys.Keyed config.strategies model model.handlers)
      (needed : kind ≠ .single ∨ metadata.effectiveMode = .routingKey)
      (unidentified : config.findProperty model.entity model.routingKey = none) :
      Fault config id kind m metadata
        (.missingIdentifierProperty model.entity.name model.routingKey id.text)
  | missingFilter {model : EntityModel} (found : config.modelFor? m = some model)
      (keyed : RoutingKeys.Keyed config.strategies model model.handlers)
      (identified : kind ≠ .single ∨ metadata.effectiveMode = .routingKey →
        (config.findProperty model.entity model.routingKey).isSome = true)
      (custom : metadata.effectiveMode = .custom) (unfiltered : metadata.filter = none) :
      Fault config id kind m metadata (.missingFilter id.text)

theorem build_eq_error_iff (hk : m.kind? = some kind) :
    build config declaring kind m metadata = .error e
      ↔ Fault config ⟨declaring.entity.name, m.name⟩ kind m metadata e := by
  simp only [build, Except.bind_eq_error_iff, Config.childModel_eq_error_iff hk,
    Config.childModel_eq_ok_iff, RoutingKeys.ofModel_eq_error_iff, identifierFor_eq_error_iff,
    identifierFor_eq_ok_iff, filterFor_eq_error_iff, pure, Except.pure, reduceCtorEq, and_false,
    exists_false, or_false, exists_and_right, RoutingKeys.exists_ofModel_eq_ok_iff]
  constructor
  · rintro (⟨t, ht, hnone, rfl⟩ | ⟨model, hmodel, hf | ⟨hkeyed, ⟨hneed, hnone, rfl⟩
      | ⟨⟨identifier, rfl, hid⟩, hc, hnone, rfl⟩⟩⟩)
    · exact .modelNotFound ht hnone
    · exact .routingKeys hmodel hf
    · exact .missingIdentifier hmodel hkeyed hneed hnone
    · exact .missingFilter hmodel hkeyed hid hc hnone
  · intro hf
    cases hf with
    | modelNotFound ht hnone => exact .inl ⟨_, ht, hnone, rfl⟩
    | routingKeys hmodel hf => exact .inr ⟨_, hmodel, .inl hf⟩
    | missingIdentifier hmodel hkeyed hneed hnone =>
      exact .inr ⟨_, hmodel, .inr ⟨hkeyed, .inl ⟨hneed, hnone, rfl⟩⟩⟩
    | missingFilter hmodel hkeyed hid hc hnone =>
      exact .inr ⟨_, hmodel, .inr ⟨hkeyed, .inr ⟨⟨_, rfl, hid⟩, hc, hnone, rfl⟩⟩⟩

theorem exists_build_eq_ok_iff :
    (∃ r, build config declaring kind m metadata = .ok r)
      ↔ ∃ model, Sound config kind m metadata model := by
  simp only [build, Except.bind_eq_ok_iff, Config.childModel_eq_ok_iff, identifierFor_eq_ok_iff,
    filterFor_eq_ok_iff]
  constructor
  · rintro ⟨r, model, hmodel, keys, hkeys, identifier, ⟨rfl, hid⟩, filter, ⟨rfl, hf⟩, -⟩
    have hkeyed := (RoutingKeys.exists_ofModel_eq_ok_iff _).1 ⟨keys, hkeys⟩
    refine ⟨model, hmodel, hkeyed, hid, fun hc => ?_⟩
    have hf := hf hc
    rwa [if_pos hc] at hf
  · rintro ⟨model, hmodel, hkeyed, hid, hf⟩
    obtain ⟨keys, hkeys⟩ := (RoutingKeys.exists_ofModel_eq_ok_iff _).2 hkeyed
    refine ⟨_, model, hmodel, keys, hkeys, _, ⟨rfl, hid⟩, _, ⟨rfl, fun hc => ?_⟩, rfl⟩
    rw [if_pos hc]
    exact hf hc

theorem tryBuild_eq_error_iff :
    tryBuild config declaring kind m = .error e
      ↔ m.kind? = some kind ∧ ∃ metadata, m.metadata = some metadata
        ∧ Fault config ⟨declaring.entity.name, m.name⟩ kind m metadata e := by
  unfold tryBuild
  cases m.metadata with
  | none => simp
  | some metadata =>
    by_cases hk : m.kind? = some kind
    · simp [hk, Except.map_eq_error_iff, build_eq_error_iff hk]
    · simp [hk]

theorem exists_tryBuild_eq_ok_some_iff :
    (∃ r, tryBuild config declaring kind m = .ok (some r))
      ↔ m.kind? = some kind ∧ ∃ metadata, m.metadata = some metadata
        ∧ ∃ model, Sound config kind m metadata model := by
  simp only [tryBuild_eq_ok_some_iff, exists_and_left]
  refine and_congr_right fun _ => ?_
  constructor
  · rintro ⟨r, metadata, hm, hb⟩
    exact ⟨metadata, hm, exists_build_eq_ok_iff.1 ⟨r, hb⟩⟩
  · rintro ⟨metadata, hm, hs⟩
    obtain ⟨r, hb⟩ := exists_build_eq_ok_iff.2 hs
    exact ⟨r, metadata, hm, hb⟩

theorem Fault.member? (hf : Fault config id kind m metadata e) :
    e.member? = some id.text
      ∨ ∃ model handler, config.modelFor? m = some model ∧ handler ∈ model.handlers
        ∧ e = .duplicateHandler handler.command model.entity.name := by
  cases hf with
  | modelNotFound | missingIdentifier | missingFilter => exact .inl rfl
  | routingKeys hmodel hf =>
    obtain ⟨before, h, after, hsplit, -, hf⟩ := hf
    cases hf with
    | noProperty => exact .inl rfl
    | taken => exact .inr ⟨_, h, hmodel, by simp [hsplit], rfl⟩

end Relation

/-- A kind passes over a member without metadata or of another kind, whatever else is wrong. For any
other it makes a relation or gives the fault of the first check to fail, which names the member
unless it is about a repeated command. -/
theorem tryBuild_outcome (config : Config) (declaring : EntityModel) (kind : ChildKind)
    (m : Member P) :
    (Relation.tryBuild config declaring kind m = .ok none
        ↔ m.metadata = none ∨ m.kind? ≠ some kind)
    ∧ (∀ e, Relation.tryBuild config declaring kind m = .error e
        ↔ m.kind? = some kind ∧ ∃ metadata, m.metadata = some metadata
          ∧ Relation.Fault config ⟨declaring.entity.name, m.name⟩ kind m metadata e)
    ∧ ((∃ r, Relation.tryBuild config declaring kind m = .ok (some r))
        ↔ m.kind? = some kind ∧ ∃ metadata, m.metadata = some metadata
          ∧ ∃ model, Relation.Sound config kind m metadata model)
    ∧ (∀ r, Relation.tryBuild config declaring kind m = .ok (some r)
        ↔ r.kind = kind ∧ ∃ metadata, Relation.WellBuilt config declaring m metadata r)
    ∧ ∀ e, Relation.tryBuild config declaring kind m = .error e →
        e.member? = some (declaring.entity.name ++ "." ++ m.name)
        ∨ ∃ model handler, config.modelFor? m = some model ∧ handler ∈ model.handlers
          ∧ e = .duplicateHandler handler.command model.entity.name := by
  refine ⟨Relation.tryBuild_eq_ok_none_iff, fun _ => Relation.tryBuild_eq_error_iff,
    Relation.exists_tryBuild_eq_ok_some_iff, fun _ => Relation.tryBuild_eq_ok_some_iff_wellBuilt,
    fun e he => ?_⟩
  obtain ⟨-, metadata, -, hf⟩ := Relation.tryBuild_eq_error_iff.1 he
  exact hf.member?

namespace Shop

/-- A model of parcels with three faults: the second handler has no property for its key, its
command is that of the first, and parcels have no property for the key of the model. -/
def faultyModel : EntityModel where
  entity := parcel.type
  routingKey := "parcelNo"
  handlers :=
    [{ command := "parcel.reweigh", payloadType := reweighParcel.type,
       routingKey := some "parcelId" },
      { command := "parcel.reweigh", payloadType := reweighParcel.type, routingKey := some "nr" }]

def faultyConfig : Config where
  registry := { models := [faultyModel] }

def unfilteredCrates : Member Order :=
  { Order.sequence "crates" parcel (·.crates) with metadata := some { mode := .custom } }

end Shop

open Shop in
/-- Of the faults of the crates the missing property of the second handler is reported. -/
theorem crates_lack_routing_property :
    Relation.tryBuild faultyConfig orderModel .sequence unfilteredCrates
      = .error (.missingRoutingProperty "shop::ReweighParcel" "nr" "shop::Order.crates")
    ∧ (ConfigError.missingRoutingProperty "shop::ReweighParcel" "nr" "shop::Order.crates").member?
      = some (orderModel.entity.name ++ "." ++ unfilteredCrates.name) := by
  obtain ⟨-, herror, -, -, hmember⟩ :=
    tryBuild_outcome faultyConfig orderModel .sequence unfilteredCrates
  have hp : (findProperty Strategy.defaults reweighParcel.type "parcelId").isSome = true := by
    decide +kernel
  have hnone : (findProperty Strategy.defaults reweighParcel.type "nr").isNone = true := by
    decide +kernel
  have hkeyed : RoutingKeys.Keyed Strategy.defaults faultyModel (faultyModel.handlers.take 1) := by
    refine ⟨List.nodup_singleton _, fun h hh => ?_⟩
    rw [List.mem_singleton.1 hh]
    exact hp
  have hfault : RoutingKeys.FirstFault faultyConfig.strategies
      ⟨orderModel.entity.name, unfilteredCrates.name⟩ faultyModel
      (.missingRoutingProperty "shop::ReweighParcel" "nr" "shop::Order.crates") :=
    ⟨faultyModel.handlers.take 1, _, [], rfl, hkeyed,
      .noProperty (Option.isNone_iff_eq_none.1 hnone)⟩
  have he := (herror _).2 ⟨rfl, _, rfl, .routingKeys rfl hfault⟩
  exact ⟨he, (hmember _ he).resolve_right nofun⟩

end AggregateRouting
