import AggregateRouting.Proofs.InspectionLog

/-! # The kinds of a configuration

The kind of a member decides, if it is configured, and no other kind is asked for more than to pass
the member over (`Config.relationOf_of_kind`). So a configuration is about a set of kinds: their
order and their repetitions change neither a relation nor a fault nor a report, and what is wrong
with a member of any other kind is never found (`kinds_matter_as_set`). -/

namespace AggregateRouting
variable {P : Type} {config : Config} {declaring : EntityModel} {kind : ChildKind}
  {kinds kinds' : List ChildKind} {m : Member P} {ms : List (Member P)} {e : ConfigError}

namespace Config

def covers (config : Config) (m : Member P) : Bool :=
  config.kinds.any (m.kind? = some ·)

theorem covers_iff : config.covers m = true ↔ ∃ kind ∈ config.kinds, m.kind? = some kind := by
  simp [covers]

theorem covers_eq_false_iff :
    config.covers m = false ↔ ∀ kind ∈ config.kinds, m.kind? ≠ some kind := by
  simp [covers]

/-! ### One member -/

theorem value_relationByKinds_of_not_mem (h : ∀ kind ∈ kinds, m.kind? ≠ some kind) :
    (config.relationByKinds declaring m kinds).value = .ok none :=
  value_relationByKinds_of_none fun kind hmem =>
    Relation.tryBuild_eq_ok_none_iff.2 (.inr (h kind hmem))

theorem relationOf_of_kind (hk : m.kind? = some kind) :
    (config.relationOf declaring m).value
      = if kind ∈ config.kinds then Relation.tryBuild config declaring kind m else .ok none := by
  rw [relationOf]
  split
  next hmem => exact value_relationByKinds_of_mem hk hmem
  next hnot =>
    refine value_relationByKinds_of_not_mem fun kind' hmem hk' => hnot ?_
    rwa [Option.some.inj (hk.symm.trans hk')]

theorem relationOf_of_not_covers (h : config.covers m = false) :
    config.relationOf declaring m
      = .reporting (.memberSkipped declaring.entity.name m.name m.kind?) (.ok none) := by
  have hvalue : (config.relationByKinds declaring m config.kinds).value = .ok none :=
    value_relationByKinds_of_not_mem (covers_eq_false_iff.1 h)
  have hlog := log_relationByKinds config declaring m config.kinds
  rw [hvalue] at hlog
  exact congrArg₂ Logged.mk hvalue hlog

theorem covers_of_relationOf_eq_error (h : (config.relationOf declaring m).value = .error e) :
    config.covers m = true := by
  by_contra hnot
  rw [relationOf_of_not_covers (Bool.eq_false_iff.2 hnot)] at h
  cases h

theorem relationByKinds_congr (h : ∀ kind, kind ∈ kinds ↔ kind ∈ kinds') :
    config.relationByKinds declaring m kinds = config.relationByKinds declaring m kinds' := by
  have hvalue : (config.relationByKinds declaring m kinds).value
      = (config.relationByKinds declaring m kinds').value := by
    by_cases hfit : ∃ kind ∈ kinds, m.kind? = some kind
    · obtain ⟨kind, hmem, hk⟩ := hfit
      rw [value_relationByKinds_of_mem hk hmem, value_relationByKinds_of_mem hk ((h kind).1 hmem)]
    · have hne : ∀ kind ∈ kinds, m.kind? ≠ some kind := fun kind hmem hk => hfit ⟨kind, hmem, hk⟩
      rw [value_relationByKinds_of_not_mem hne,
        value_relationByKinds_of_not_mem fun kind hmem => hne kind ((h kind).2 hmem)]
  -- What is reported is determined by what becomes of the member.
  have hlog : (config.relationByKinds declaring m kinds).log
      = (config.relationByKinds declaring m kinds').log := by
    rw [log_relationByKinds, log_relationByKinds, hvalue]
  exact congrArg₂ Logged.mk hvalue hlog

theorem relationByKinds_withKinds (kinds' kinds : List ChildKind) :
    { config with kinds := kinds' }.relationByKinds declaring m kinds
      = config.relationByKinds declaring m kinds := by
  induction kinds with
  | nil => rfl
  | cons kind kinds ih =>
    rw [relationByKinds, relationByKinds, ih]
    rfl

theorem relationOf_withKinds (h : ∀ kind, kind ∈ kinds ↔ kind ∈ config.kinds) (m : Member P) :
    { config with kinds := kinds }.relationOf declaring m = config.relationOf declaring m := by
  rw [relationOf, relationOf, relationByKinds_withKinds]
  exact relationByKinds_congr h

/-! ### All members -/

theorem value_inspect_filter_covers (config : Config) (declaring : EntityModel)
    (ms : List (Member P)) :
    (config.inspect declaring (ms.filter config.covers)).value
      = (config.inspect declaring ms).value := by
  induction ms with
  | nil => rfl
  | cons m ms ih =>
    by_cases hm : config.covers m = true
    · rw [List.filter_cons_of_pos hm, value_inspect_cons, value_inspect_cons, ih]
    · rw [List.filter_cons_of_neg hm, value_inspect_cons, ih,
        relationOf_of_not_covers (Bool.eq_false_iff.2 hm)]
      -- A skipped member leaves the relations of the others as they are.
      cases (config.inspect declaring ms).value <;> rfl

theorem exists_of_inspect_eq_error (h : (config.inspect declaring ms).value = .error e) :
    ∃ m ∈ ms, ∃ kind ∈ config.kinds, m.kind? = some kind
      ∧ Relation.tryBuild config declaring kind m = .error e := by
  obtain ⟨before, m, after, rfl, -, he⟩ := inspect_eq_error_iff.1 h
  obtain ⟨kind, hmem, hk⟩ := covers_iff.1 (covers_of_relationOf_eq_error he)
  rw [relationOf_of_kind hk, if_pos hmem] at he
  exact ⟨m, by simp, kind, hmem, hk, he⟩

end Config

/-- A member becomes what its own kind makes of it, if that is configured, and otherwise it is
skipped. So configured kinds matter neither by their order nor by how often they occur. -/
theorem kinds_matter_as_set (config : Config) (declaring : EntityModel) :
    (∀ (m : Member P) (kind : ChildKind), m.kind? = some kind →
        (config.relationOf declaring m).value
          = if kind ∈ config.kinds then Relation.tryBuild config declaring kind m else .ok none)
    ∧ (∀ m : Member P, (∀ kind ∈ config.kinds, m.kind? ≠ some kind) →
        config.relationOf declaring m
          = .reporting (.memberSkipped declaring.entity.name m.name m.kind?) (.ok none))
    ∧ (∀ kinds : List ChildKind, (∀ kind, kind ∈ kinds ↔ kind ∈ config.kinds) →
        (∀ m : Member P,
          { config with kinds := kinds }.relationOf declaring m = config.relationOf declaring m)
        ∧ ∀ ms : List (Member P),
          { config with kinds := kinds }.inspect declaring ms = config.inspect declaring ms)
    ∧ ∀ ms : List (Member P),
        (config.inspect declaring (ms.filter config.covers)).value
          = (config.inspect declaring ms).value
        ∧ ∀ e, (config.inspect declaring ms).value = .error e →
            ∃ m ∈ ms, ∃ kind ∈ config.kinds, m.kind? = some kind
              ∧ Relation.tryBuild config declaring kind m = .error e := by
  refine ⟨fun m kind hk => Config.relationOf_of_kind hk, fun m hne => ?_, fun kinds h => ?_,
    fun ms => ⟨config.value_inspect_filter_covers declaring ms, fun e he => ?_⟩⟩
  · exact Config.relationOf_of_not_covers (Config.covers_eq_false_iff.2 hne)
  · have hmember : ∀ m : Member P,
        { config with kinds := kinds }.relationOf declaring m = config.relationOf declaring m :=
      Config.relationOf_withKinds h
    exact ⟨hmember, Config.inspect_congr hmember⟩
  · exact Config.exists_of_inspect_eq_error he

def Shop.unsequenced : Config :=
  { Shop.config with kinds := [.single, .keyed] }

open Shop in
/-- The shop has no model for the crates, but where no children that come in a row are configured
nobody finds out, in whatever order the other kinds are given. -/
theorem crates_pass_unnoticed :
    (∃ e, Relation.tryBuild unsequenced orderModel .sequence unfilteredCrates = .error e)
    ∧ { unsequenced with kinds := [.keyed, .single, .keyed] }.inspect orderModel
          (unfilteredCrates :: routedMembers)
        = unsequenced.inspect orderModel (unfilteredCrates :: routedMembers)
    ∧ ∃ rs, (unsequenced.inspect orderModel (unfilteredCrates :: routedMembers)).value = .ok rs
        ∧ rs.length = 2 := by
  obtain ⟨-, -, hset, hcovered⟩ := kinds_matter_as_set (P := Order) unsequenced orderModel
  refine ⟨?_, ?_, ?_⟩
  · have hnone : (unsequenced.registry.modelOf? parcel.type).isNone = true := by decide +kernel
    exact ⟨_, Relation.tryBuild_eq_error_iff.2
      ⟨rfl, _, rfl, .modelNotFound rfl (Option.isNone_iff_eq_none.1 hnone)⟩⟩
  · have hkinds : ∀ kind, kind ∈ [ChildKind.keyed, .single, .keyed] ↔ kind ∈ unsequenced.kinds := by
      intro kind
      cases kind <;> decide
    exact (hset _ hkinds).2 _
  · have hok : (unsequenced.inspect orderModel
        ((unfilteredCrates :: routedMembers).filter unsequenced.covers)).value.isOk = true := by
      decide +kernel
    obtain ⟨rs, hrs⟩ := Except.exists_eq_ok_of_isOk hok
    have hlength := congrArg List.length (Config.map_source_of_inspect hrs)
    rw [List.length_map] at hlength
    exact ⟨rs, (hcovered _).1.symm.trans hrs, hlength.trans (by decide +kernel)⟩

end AggregateRouting
