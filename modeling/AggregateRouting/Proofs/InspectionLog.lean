import AggregateRouting.Proofs.Faults
import AggregateRouting.Proofs.InspectedRelations

/-! # The outcome of an inspection and its log

An inspection goes through the members one by one (`inspect_outcome`). It succeeds if no member has
a fault, with the relations that the members have; otherwise it ends with the fault of the first
member that has one. Of each member before that there is one entry in the log (`Reported`). -/

namespace AggregateRouting
variable {P : Type} {config : Config} {declaring : EntityModel} {m : Member P}
  {ms : List (Member P)} {metadata : Metadata} {r : Relation P} {rs : List (Relation P)}
  {e : ConfigError}

namespace Config

def relation? (config : Config) (declaring : EntityModel) (m : Member P) : Option (Relation P) :=
  (config.relationOf declaring m).value.toOption.join

def passes (config : Config) (declaring : EntityModel) (m : Member P) : Bool :=
  (config.relationOf declaring m).value.isOk

theorem passes_of_ok {relation? : Option (Relation P)}
    (h : (config.relationOf declaring m).value = .ok relation?) :
    config.passes declaring m = true := by
  rw [passes, h]
  rfl

theorem passes_of_error (h : (config.relationOf declaring m).value = .error e) :
    config.passes declaring m = false := by
  rw [passes, h]
  rfl

theorem relation?_of_ok {relation? : Option (Relation P)}
    (h : (config.relationOf declaring m).value = .ok relation?) :
    config.relation? declaring m = relation? := by
  rw [Config.relation?, h]
  rfl

/-! ### The outcome -/

theorem relationOf_eq_error_iff :
    (config.relationOf declaring m).value = .error e
      ↔ ∃ kind ∈ config.kinds, Relation.tryBuild config declaring kind m = .error e := by
  rw [relationOf]
  by_cases h : ∃ kind ∈ config.kinds, m.kind? = some kind
  · obtain ⟨kind, hmem, hk⟩ := h
    rw [value_relationByKinds_of_mem hk hmem]
    constructor
    · intro he
      exact ⟨kind, hmem, he⟩
    · rintro ⟨kind', -, he⟩
      obtain ⟨hk', -⟩ := Relation.tryBuild_eq_error_iff.1 he
      obtain rfl : kind = kind' := Option.some.inj (hk.symm.trans hk')
      exact he
  · have hnone : ∀ kind ∈ config.kinds, Relation.tryBuild config declaring kind m = .ok none :=
      fun kind hmem => Relation.tryBuild_eq_ok_none_iff.2 (.inr fun hk => h ⟨kind, hmem, hk⟩)
    rw [value_relationByKinds_of_none hnone]
    constructor
    · rintro ⟨⟩
    · rintro ⟨kind, hmem, he⟩
      rw [hnone kind hmem] at he
      cases he

theorem inspect_eq_ok_iff_passes :
    (config.inspect declaring ms).value = .ok rs
      ↔ (∀ m ∈ ms, config.passes declaring m = true)
        ∧ rs = ms.filterMap (config.relation? declaring) := by
  induction ms generalizing rs with
  | nil =>
    rw [inspect, Logged.value_quiet, Except.ok.injEq, eq_comm]
    simp
  | cons m ms ih =>
    rw [value_inspect_cons, List.forall_mem_cons, List.filterMap_cons]
    cases hr : (config.relationOf declaring m).value with
    | error e => simp [Except.bind, passes_of_error hr]
    | ok relation? =>
      rw [passes_of_ok hr, relation?_of_ok hr]
      show Except.map _ _ = _ ↔ _
      rw [Except.map_eq_ok_iff]
      constructor
      · rintro ⟨rs', hrs, rfl⟩
        obtain ⟨hpass, rfl⟩ := ih.1 hrs
        exact ⟨⟨rfl, hpass⟩, by cases relation? <;> rfl⟩
      · rintro ⟨⟨-, hpass⟩, rfl⟩
        exact ⟨_, ih.2 ⟨hpass, rfl⟩, by cases relation? <;> rfl⟩

theorem inspect_cons_eq_error_iff :
    (config.inspect declaring (m :: ms)).value = .error e
      ↔ (config.relationOf declaring m).value = .error e
        ∨ config.passes declaring m = true ∧ (config.inspect declaring ms).value = .error e := by
  rw [value_inspect_cons]
  cases hr : (config.relationOf declaring m).value with
  | error e' => simp [Except.bind, passes_of_error hr]
  | ok relation? =>
    rw [passes_of_ok hr]
    show Except.map _ _ = _ ↔ _
    rw [Except.map_eq_error_iff]
    simp

theorem inspect_eq_error_iff :
    (config.inspect declaring ms).value = .error e
      ↔ ∃ before m after, ms = before ++ m :: after
        ∧ (∀ m' ∈ before, config.passes declaring m' = true)
        ∧ (config.relationOf declaring m).value = .error e := by
  induction ms with
  | nil => simp [inspect]
  | cons m ms ih =>
    rw [inspect_cons_eq_error_iff, ih]
    constructor
    · rintro (he | ⟨hm, before, m', after, rfl, hpass, he⟩)
      · exact ⟨[], m, ms, rfl, List.forall_mem_nil _, he⟩
      · exact ⟨m :: before, m', after, rfl, List.forall_mem_cons.2 ⟨hm, hpass⟩, he⟩
    · rintro ⟨before, m', after, hsplit, hpass, he⟩
      cases before with
      | nil =>
        obtain ⟨rfl, rfl⟩ := List.cons.inj hsplit
        exact .inl he
      | cons m'' before =>
        obtain ⟨rfl, rfl⟩ := List.cons.inj hsplit
        obtain ⟨hm, hpass⟩ := List.forall_mem_cons.1 hpass
        exact .inr ⟨hm, before, m', after, rfl, hpass, he⟩

/-! ### The log -/

/-- What is reported of a member that has no fault: the relation that was made of it, in the terms
of the configuration, or that there is none. -/
inductive Reported (config : Config) (declaring : EntityModel) (m : Member P) : LogEntry → Prop
  | created {r : Relation P} {metadata : Metadata} {kind : ChildKind} {model : EntityModel}
      (built : (config.relationOf declaring m).value = .ok (some r))
      (metadata_eq : m.metadata = some metadata) (kind_eq : m.kind? = some kind)
      (model_eq : config.modelFor? m = some model) :
      Reported config declaring m
        (.relationCreated ⟨declaring.entity.name, m.name⟩ kind model.entity.name
          metadata.forwardsCommands metadata.effectiveMode model.handlers.length)
  | skipped (unbuilt : (config.relationOf declaring m).value = .ok none) :
      Reported config declaring m (.memberSkipped declaring.entity.name m.name m.kind?)

theorem Reported.level {entry : LogEntry} (h : Reported config declaring m entry) :
    entry.level = .debug := by
  cases h <;> rfl

theorem Reported.message {entry : LogEntry} (h : Reported config declaring m entry) :
    entry.message
      = if (config.relation? declaring m).isSome then "child entity relation created"
        else "member skipped: not a child entity member" := by
  cases h with
  | created hr =>
    rw [relation?_of_ok hr]
    rfl
  | skipped hr =>
    rw [relation?_of_ok hr]
    rfl

theorem log_relationByKinds (config : Config) (declaring : EntityModel) (m : Member P)
    (kinds : List ChildKind) :
    (config.relationByKinds declaring m kinds).log
      = match (config.relationByKinds declaring m kinds).value with
        | .ok (some r) => [r.created]
        | .ok none => [.memberSkipped declaring.entity.name m.name m.kind?]
        | .error _ => [] := by
  induction kinds with
  | nil => rfl
  | cons kind kinds ih =>
    rw [relationByKinds, Logged.log_bind, Logged.value_bind, Relation.tryBuildLogged]
    rcases Relation.tryBuild config declaring kind m with e | _ | r
    · rfl
    · -- A kind that does not take the member reports nothing.
      exact ih
    · rfl

theorem log_relationOf_of_error (h : (config.relationOf declaring m).value = .error e) :
    (config.relationOf declaring m).log = [] := by
  rw [relationOf] at h ⊢
  rw [log_relationByKinds, h]

end Config

theorem Relation.WellBuilt.created_eq (h : WellBuilt config declaring m metadata r) :
    r.created = .relationCreated ⟨declaring.entity.name, m.name⟩ r.kind r.model.entity.name
      metadata.forwardsCommands metadata.effectiveMode r.model.handlers.length := by
  rw [Relation.created, h.member_eq, h.forwardsCommands_eq, h.mode_eq, h.entries.length_eq]

namespace Config

theorem exists_reported {relation? : Option (Relation P)}
    (h : (config.relationOf declaring m).value = .ok relation?) :
    ∃ entry, (config.relationOf declaring m).log = [entry] ∧ Reported config declaring m entry := by
  have hlog := log_relationByKinds config declaring m config.kinds
  rw [← relationOf, h] at hlog
  cases relation? with
  | none => exact ⟨_, hlog, .skipped h⟩
  | some r =>
    obtain ⟨-, metadata, hr⟩ := relationOf_eq_ok_some_iff.1 h
    refine ⟨r.created, hlog, ?_⟩
    rw [hr.created_eq]
    exact .created h hr.metadata_eq hr.kind_eq hr.model_eq

theorem forall₂_reported (config : Config) (declaring : EntityModel) (ms : List (Member P)) :
    List.Forall₂ (Reported config declaring) (ms.takeWhile (config.passes declaring))
      (config.inspect declaring ms).log := by
  induction ms with
  | nil => exact .nil
  | cons m ms ih =>
    rw [log_inspect_cons, List.takeWhile_cons]
    cases hr : (config.relationOf declaring m).value with
    | error e =>
      rw [passes_of_error hr, log_relationOf_of_error hr]
      exact .nil
    | ok relation? =>
      obtain ⟨entry, hlog, hentry⟩ := exists_reported hr
      rw [passes_of_ok hr, hlog]
      exact .cons hentry ih

end Config

/-- An inspection succeeds exactly if no member has a fault, and else ends with the fault of the
first member that has one. The log has an entry for each member before that one, in order. -/
theorem inspect_outcome (config : Config) (declaring : EntityModel) (ms : List (Member P)) :
    (∀ rs, (config.inspect declaring ms).value = .ok rs
        ↔ (∀ m ∈ ms, (config.relationOf declaring m).value.isOk = true)
          ∧ rs = ms.filterMap (config.relation? declaring))
    ∧ (∀ e, (config.inspect declaring ms).value = .error e
        ↔ ∃ before m after, ms = before ++ m :: after
          ∧ (∀ m' ∈ before, (config.relationOf declaring m').value.isOk = true)
          ∧ (config.relationOf declaring m).value = .error e)
    ∧ List.Forall₂
        (fun m entry => config.Reported declaring m entry ∧ entry.level = .debug
          ∧ entry.message
            = if (config.relation? declaring m).isSome then "child entity relation created"
              else "member skipped: not a child entity member")
        (ms.takeWhile fun m => (config.relationOf declaring m).value.isOk)
        (config.inspect declaring ms).log :=
  ⟨fun _ => Config.inspect_eq_ok_iff_passes, fun _ => Config.inspect_eq_error_iff,
    (config.forall₂_reported declaring ms).imp fun _ _ h => ⟨h, h.level, h.message⟩⟩

open Shop in
/-- The shop has no model of parcels, so an inspection that comes to the crates ends there, with an
entry for each member before. -/
theorem crates_end_inspection :
    (Shop.config.inspect orderModel
        (routedMembers ++ [unfilteredCrates, Order.value "total" "u64"])).value
      = .error (.modelNotFound "shop::Parcel" "shop::Order.crates")
    ∧ (Shop.config.inspect orderModel
        (routedMembers ++ [unfilteredCrates, Order.value "total" "u64"])).log.length = 5 := by
  have hcrates : (Shop.config.relationOf orderModel unfilteredCrates).value
      = .error (.modelNotFound "shop::Parcel" "shop::Order.crates") := by
    have hnone : (Shop.config.registry.modelOf? parcel.type).isNone = true := by decide +kernel
    have hkind : unfilteredCrates.kind? = some .sequence := rfl
    rw [Config.relationOf, Config.value_relationByKinds_of_mem hkind (by decide)]
    exact Relation.tryBuild_eq_error_iff.2
      ⟨hkind, _, rfl, .modelNotFound rfl (Option.isNone_iff_eq_none.1 hnone)⟩
  obtain ⟨hok, -, -⟩ := inspect_outcome Shop.config orderModel routedMembers
  obtain ⟨-, herror, hlog⟩ := inspect_outcome Shop.config orderModel
    (routedMembers ++ [unfilteredCrates, Order.value "total" "u64"])
  have hpass := ((hok relations).1 inspect_eq).1
  refine ⟨(herror _).2 ⟨routedMembers, _, _, rfl, hpass, hcrates⟩, ?_⟩
  rw [← hlog.length_eq, List.takeWhile_append_of_pos hpass, List.takeWhile_cons, hcrates]
  rfl

end AggregateRouting
