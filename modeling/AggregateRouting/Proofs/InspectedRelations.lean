import AggregateRouting.Inspection
import AggregateRouting.Proofs.Construction

/-! # The relations of an inspection

`inspect_eq_ok_iff`: an inspection succeeds with the relations `rs` exactly if `rs` are well built
for the members that some configured kind takes, one for each and in order. -/

namespace AggregateRouting
variable {P : Type} {config : Config} {declaring : EntityModel} {m : Member P}
  {ms : List (Member P)} {r : Relation P} {rs : List (Relation P)}

namespace Config

/-- Whether a member becomes a relation: it has metadata and is of a configured kind. -/
def takes (config : Config) (m : Member P) : Bool :=
  m.metadata.isSome && config.kinds.any (m.kind? = some ·)

theorem takes_of_kind {kind : ChildKind} (hk : m.kind? = some kind) (hmem : kind ∈ config.kinds) :
    config.takes m = m.metadata.isSome := by
  have : config.kinds.any (m.kind? = some ·) = true :=
    List.any_eq_true.2 ⟨kind, hmem, by simpa using hk⟩
  rw [takes, this, Bool.and_true]

theorem takes_eq_false_of_kind (hk : ∀ kind ∈ config.kinds, m.kind? ≠ some kind) :
    config.takes m = false := by
  have : config.kinds.any (m.kind? = some ·) = false :=
    List.any_eq_false.2 fun kind hmem => by simpa using hk kind hmem
  rw [takes, this, Bool.and_false]

theorem kind_mem_of_takes {kind : ChildKind} (hk : m.kind? = some kind)
    (ht : config.takes m = true) : kind ∈ config.kinds := by
  obtain ⟨-, ht⟩ := Bool.and_eq_true_iff.1 ht
  obtain ⟨kind', hmem, hk'⟩ := List.any_eq_true.1 ht
  rw [of_decide_eq_true hk', Option.some.injEq] at hk
  exact hk ▸ hmem

theorem value_relationByKinds_cons (kind : ChildKind) (kinds : List ChildKind) :
    (config.relationByKinds declaring m (kind :: kinds)).value
      = match Relation.tryBuild config declaring kind m with
        | .ok none => (config.relationByKinds declaring m kinds).value
        | result => result := by
  rw [relationByKinds, Logged.value_bind, Relation.value_tryBuildLogged]
  rcases Relation.tryBuild config declaring kind m with e | _ | r <;> rfl

theorem value_relationByKinds_of_none {kinds : List ChildKind}
    (h : ∀ kind ∈ kinds, Relation.tryBuild config declaring kind m = .ok none) :
    (config.relationByKinds declaring m kinds).value = .ok none := by
  induction kinds with
  | nil => rfl
  | cons kind kinds ih =>
    rw [value_relationByKinds_cons, h kind (List.mem_cons_self ..)]
    exact ih fun kind' hkind' => h kind' (List.mem_cons_of_mem _ hkind')

/-- Kinds that do not fit a member are passed over, so the one that does decides, wherever it stands
among the kinds and however often. -/
theorem value_relationByKinds_of_mem {kind : ChildKind} (hk : m.kind? = some kind)
    {kinds : List ChildKind} (hmem : kind ∈ kinds) :
    (config.relationByKinds declaring m kinds).value
      = Relation.tryBuild config declaring kind m := by
  cases hm : m.metadata with
  | none =>
    -- Without metadata every kind passes the member over, also the one that fits.
    have hnone (kind' : ChildKind) : Relation.tryBuild config declaring kind' m = .ok none :=
      Relation.tryBuild_eq_ok_none_iff.2 (.inl hm)
    rw [value_relationByKinds_of_none fun kind' _ => hnone kind', hnone]
  | some metadata =>
    induction kinds with
    | nil => cases hmem
    | cons kind' kinds ih =>
      rw [value_relationByKinds_cons]
      by_cases he : kind' = kind
      · subst he
        split
        next hb =>
          rw [Relation.tryBuild_eq_ok_none_iff, hm, hk] at hb
          simp at hb
        next => rfl
      · have hne : m.kind? ≠ some kind' := fun h => he (Option.some.inj (h.symm.trans hk))
        rw [Relation.tryBuild_eq_ok_none_iff.2 (.inr hne)]
        exact ih ((List.mem_cons.1 hmem).resolve_left (Ne.symm he))

theorem relationOf_eq_ok_some_iff :
    (config.relationOf declaring m).value = .ok (some r)
      ↔ r.kind ∈ config.kinds ∧ ∃ metadata, Relation.WellBuilt config declaring m metadata r := by
  rw [relationOf]
  by_cases h : ∃ kind ∈ config.kinds, m.kind? = some kind
  · obtain ⟨kind, hmem, hk⟩ := h
    rw [value_relationByKinds_of_mem hk hmem, Relation.tryBuild_eq_ok_some_iff_wellBuilt]
    constructor
    · rintro ⟨rfl, hr⟩
      exact ⟨hmem, hr⟩
    · rintro ⟨-, metadata, hr⟩
      exact ⟨Option.some.inj (hr.kind_eq.symm.trans hk), metadata, hr⟩
  · have hnone : ∀ kind ∈ config.kinds, Relation.tryBuild config declaring kind m = .ok none :=
      fun kind hmem => Relation.tryBuild_eq_ok_none_iff.2 (.inr fun hk => h ⟨kind, hmem, hk⟩)
    rw [value_relationByKinds_of_none hnone]
    constructor
    · rintro ⟨⟩
    · rintro ⟨hmem, metadata, hr⟩
      exact absurd ⟨r.kind, hmem, hr.kind_eq⟩ h

theorem relationOf_eq_ok_none_iff :
    (config.relationOf declaring m).value = .ok none ↔ config.takes m = false := by
  rw [relationOf]
  by_cases h : ∃ kind ∈ config.kinds, m.kind? = some kind
  · obtain ⟨kind, hmem, hk⟩ := h
    rw [value_relationByKinds_of_mem hk hmem, Relation.tryBuild_eq_ok_none_iff,
      takes_of_kind hk hmem]
    simp [hk]
  · have hne : ∀ kind ∈ config.kinds, m.kind? ≠ some kind := fun kind hmem hk => h ⟨kind, hmem, hk⟩
    rw [value_relationByKinds_of_none fun kind hmem =>
      Relation.tryBuild_eq_ok_none_iff.2 (.inr (hne kind hmem)), takes_eq_false_of_kind hne]
    simp

theorem inspect_eq_ok_iff :
    (config.inspect declaring ms).value = .ok rs
      ↔ List.Forall₂ (fun m r => ∃ metadata, Relation.WellBuilt config declaring m metadata r)
          (ms.filter config.takes) rs := by
  induction ms generalizing rs with
  | nil => simp [inspect, eq_comm]
  | cons m ms ih =>
    rw [value_inspect_cons]
    by_cases ht : config.takes m = true
    · rw [List.filter_cons_of_pos ht, List.forall₂_cons_left_iff]
      constructor
      · intro h
        obtain ⟨relation?, hrel, hrest⟩ := Except.bind_eq_ok_iff.1 h
        obtain ⟨rs, hrs, rfl⟩ := Except.map_eq_ok_iff.1 hrest
        cases relation? with
        | none => rw [relationOf_eq_ok_none_iff.1 hrel] at ht; cases ht
        | some r => exact ⟨r, rs, (relationOf_eq_ok_some_iff.1 hrel).2, ih.1 hrs, rfl⟩
      · rintro ⟨r, rs, ⟨metadata, hr⟩, hrs, rfl⟩
        have hkind : r.kind ∈ config.kinds := kind_mem_of_takes hr.kind_eq ht
        rw [relationOf_eq_ok_some_iff.2 ⟨hkind, metadata, hr⟩, ih.2 hrs]
        rfl
    · rw [List.filter_cons_of_neg ht, ← ih, relationOf_eq_ok_none_iff.2 (Bool.eq_false_iff.2 ht)]
      show Except.map _ _ = _ ↔ _
      rw [Except.map_eq_ok_iff]
      simp

theorem inspect_congr {config' : Config}
    (h : ∀ m : Member P, config.relationOf declaring m = config'.relationOf declaring m)
    (ms : List (Member P)) : config.inspect declaring ms = config'.inspect declaring ms := by
  induction ms with
  | nil => rfl
  | cons m ms ih => rw [inspect, inspect, ih, h m]

theorem map_eq_map_of_inspect {β : Type} {f : Relation P → β} {g : Member P → β}
    (hfg : ∀ {m metadata r}, Relation.WellBuilt config declaring m metadata r → f r = g m)
    (h : (config.inspect declaring ms).value = .ok rs) :
    rs.map f = (ms.filter config.takes).map g := by
  rw [inspect_eq_ok_iff] at h
  generalize ms.filter config.takes = taken at h ⊢
  induction h with
  | nil => rfl
  | cons hr _ ih =>
    obtain ⟨metadata, hr⟩ := hr
    rw [List.map_cons, List.map_cons, hfg hr, ih]

theorem map_source_of_inspect (h : (config.inspect declaring ms).value = .ok rs) :
    rs.map (·.source) = ms.filter config.takes := by
  rw [map_eq_map_of_inspect (g := id) (fun hr => hr.source_eq) h, List.map_id]

theorem wellBuilt_of_mem_inspect (h : (config.inspect declaring ms).value = .ok rs)
    (hr : r ∈ rs) : ∃ metadata, Relation.WellBuilt config declaring r.source metadata r := by
  rw [inspect_eq_ok_iff] at h
  generalize ms.filter config.takes = taken at h
  induction h with
  | nil => cases hr
  | cons hr' _ ih =>
    rcases List.mem_cons.1 hr with rfl | hr
    · obtain ⟨metadata, hr'⟩ := hr'
      exact ⟨metadata, hr'.source_eq ▸ hr'⟩
    · exact ih hr

theorem exists_wellBuilt_of_inspect (h : (config.inspect declaring ms).value = .ok rs)
    (hm : m ∈ ms) (ht : config.takes m = true) :
    ∃ r metadata, Relation.WellBuilt config declaring m metadata r := by
  have hm : m ∈ rs.map (·.source) := by
    rw [map_source_of_inspect h]
    exact List.mem_filter.2 ⟨hm, ht⟩
  obtain ⟨r, hr, rfl⟩ := List.mem_map.1 hm
  exact ⟨r, wellBuilt_of_mem_inspect h hr⟩

end Config
end AggregateRouting
