import AggregateRouting.Proofs.Matching
import AggregateRouting.Routing
import Mathlib.Data.Finset.Card
import Mathlib.Data.List.Perm.Basic

/-! # Runs of submissions to a registry

What one submission does is said by `submit_of_none` and `submit_of_some`; from these, by induction
over the run, the registry has for each type the first model that was submitted for it
(`modelOf?_submitAll`), and its types are those that were submitted (`mem_types_submitAll`). An
inspection asks a registry for models and for nothing else (`inspect_congr_registry`), so that the
order of submissions is of no account where no two are for the same type
(`first_submission_stays`). -/

namespace AggregateRouting
namespace Registry
variable {r : Registry} {m m' : EntityModel} {ms ms' : List EntityModel} {t t' : RecordType}

/-! ### One submission -/

def types (r : Registry) : List TypeId :=
  r.models.map (·.entity.id)

theorem nodup_types (r : Registry) : r.types.Nodup :=
  List.pairwise_map.2 r.distinct

theorem size_eq_card_types (r : Registry) : r.size = r.types.toFinset.card := by
  rw [List.toFinset_card_of_nodup r.nodup_types, types, List.length_map, size]

theorem modelOf?_congr (h : t.id = t'.id) : r.modelOf? t = r.modelOf? t' := by
  rw [modelOf?, modelOf?, h]

theorem mem_of_find?_type (h : ms.find? (·.entity.id == t.id) = some m) :
    m ∈ ms ∧ m.entity.id = t.id := by
  have hid := List.find?_some h
  exact ⟨List.mem_of_find?_eq_some h, eq_of_beq hid⟩

theorem submit_of_none (h : r.modelOf? m.entity = none) : r.submit m = (.ok m, r.add m h) :=
  dif_pos h

theorem submit_of_some (h : r.modelOf? m.entity = some m') :
    r.submit m = (.error (.duplicateModel m.entity.name), r) :=
  dif_neg (by rw [h]; exact Option.some_ne_none m')

theorem modelOf?_submit (r : Registry) (m : EntityModel) (t : RecordType) :
    (r.submit m).2.modelOf? t
      = (r.modelOf? t).or (if m.entity.id = t.id then some m else none) := by
  by_cases ht : m.entity.id = t.id
  · have hsame : r.modelOf? t = r.modelOf? m.entity := modelOf?_congr ht.symm
    rw [if_pos ht]
    cases h : r.modelOf? m.entity with
    | none =>
      rw [submit_of_none h, modelOf?_add h, if_pos ht, hsame, h]
      rfl
    | some first =>
      rw [submit_of_some h, hsame, h]
      rfl
  · rw [if_neg ht, Option.or_none]
    cases h : r.modelOf? m.entity with
    | none => rw [submit_of_none h, modelOf?_add h, if_neg ht]
    | some first => rw [submit_of_some h]

theorem mem_types_submit {i : TypeId} :
    i ∈ (r.submit m).2.types ↔ i ∈ r.types ∨ i = m.entity.id := by
  cases h : r.modelOf? m.entity with
  | none =>
    rw [submit_of_none h]
    simp [types, add, eq_comm]
  | some first =>
    have hfirst : m.entity.id ∈ r.types := List.mem_map.2 ⟨first, mem_of_find?_type h⟩
    rw [submit_of_some h]
    constructor
    · exact .inl
    · rintro (hi | rfl)
      · exact hi
      · exact hfirst

/-! ### A run of submissions -/

theorem submitAll_cons :
    r.submitAll (m :: ms) = ((r.submit m).1 :: ((r.submit m).2.submitAll ms).1,
      ((r.submit m).2.submitAll ms).2) :=
  rfl

theorem submitAll_append :
    r.submitAll (ms ++ ms') = ((r.submitAll ms).1 ++ ((r.submitAll ms).2.submitAll ms').1,
      ((r.submitAll ms).2.submitAll ms').2) := by
  induction ms generalizing r with
  | nil => rfl
  | cons m ms ih => rw [List.cons_append, submitAll_cons, ih, submitAll_cons, List.cons_append]

theorem length_answers (r : Registry) (ms : List EntityModel) :
    (r.submitAll ms).1.length = ms.length := by
  induction ms generalizing r with
  | nil => rfl
  | cons m ms ih => rw [submitAll_cons, List.length_cons, ih, List.length_cons]

theorem answer_eq (before rest : List EntityModel) :
    (r.submitAll (before ++ m :: rest)).1[before.length]?
      = some ((r.submitAll before).2.submit m).1 := by
  have hlength := length_answers r before
  rw [submitAll_append, submitAll_cons, List.getElem?_append_right hlength.le, hlength,
    Nat.sub_self]
  rfl

theorem submitAll_concat :
    (r.submitAll (ms ++ [m])).2 = ((r.submitAll ms).2.submit m).2 := by
  rw [submitAll_append]
  rfl

theorem modelOf?_submitAll (r : Registry) (ms : List EntityModel) (t : RecordType) :
    (r.submitAll ms).2.modelOf? t = (r.modelOf? t).or (ms.find? (·.entity.id == t.id)) := by
  induction ms generalizing r with
  | nil => exact Option.or_none.symm
  | cons m ms ih =>
    -- The rest runs on the registry after the first submission, so the first model comes before the
    -- models of the rest.
    rw [submitAll_cons, ih, modelOf?_submit, Option.or_assoc, List.find?_cons]
    by_cases ht : m.entity.id = t.id
    · rw [if_pos ht, beq_iff_eq.2 ht]
      rfl
    · rw [if_neg ht, beq_eq_false_iff_ne.2 ht]
      rfl

theorem mem_types_submitAll {i : TypeId} :
    i ∈ (r.submitAll ms).2.types ↔ i ∈ r.types ∨ i ∈ ms.map (·.entity.id) := by
  induction ms generalizing r with
  | nil => simp [submitAll]
  | cons m ms ih =>
    rw [submitAll_cons, ih, mem_types_submit, List.map_cons, List.mem_cons, or_assoc]

/-! ### Submissions to an empty registry -/

def answers (ms : List EntityModel) : List (Except ConfigError EntityModel) :=
  (empty.submitAll ms).1

def ofSubmissions (ms : List EntityModel) : Registry :=
  (empty.submitAll ms).2

theorem modelOf?_ofSubmissions (ms : List EntityModel) (t : RecordType) :
    (ofSubmissions ms).modelOf? t = ms.find? (·.entity.id == t.id) :=
  modelOf?_submitAll empty ms t

theorem modelOf?_ofSubmissions_eq_none_iff :
    (ofSubmissions ms).modelOf? t = none ↔ ∀ m ∈ ms, m.entity.id ≠ t.id := by
  simp [modelOf?_ofSubmissions]

theorem size_ofSubmissions (ms : List EntityModel) :
    (ofSubmissions ms).size = (ms.map (·.entity.id)).toFinset.card := by
  have htypes : (ofSubmissions ms).types.toFinset = (ms.map (·.entity.id)).toFinset := by
    ext i
    rw [List.mem_toFinset, List.mem_toFinset, ofSubmissions, mem_types_submitAll]
    exact or_iff_right List.not_mem_nil
  rw [size_eq_card_types, htypes]

theorem ofSubmissions_concat : ofSubmissions (ms ++ [m]) = ((ofSubmissions ms).submit m).2 :=
  submitAll_concat

theorem answer_eq_ok_iff {before rest : List EntityModel} :
    (answers (before ++ m :: rest))[before.length]? = some (.ok m)
      ↔ ∀ m' ∈ before, m'.entity.id ≠ m.entity.id := by
  rw [answers, answer_eq, ← modelOf?_ofSubmissions_eq_none_iff, Option.some_inj]
  change ((ofSubmissions before).submit m).1 = .ok m ↔ _
  cases h : (ofSubmissions before).modelOf? m.entity with
  | none =>
    rw [submit_of_none h]
    exact iff_of_true rfl rfl
  | some first =>
    rw [submit_of_some h]
    exact iff_of_false nofun nofun

theorem exists_modelOf?_ofSubmissions (h : ∃ m' ∈ ms, m'.entity.id = t.id) :
    ∃ first, (ofSubmissions ms).modelOf? t = some first := by
  obtain ⟨m', hm', hid⟩ := h
  rw [← Option.isSome_iff_exists, Option.isSome_iff_ne_none]
  intro hnone
  exact modelOf?_ofSubmissions_eq_none_iff.1 hnone m' hm' hid

theorem answer_eq_error {before rest : List EntityModel}
    (h : ∃ m' ∈ before, m'.entity.id = m.entity.id) :
    (answers (before ++ m :: rest))[before.length]?
      = some (.error (.duplicateModel m.entity.name)) := by
  obtain ⟨first, hfirst⟩ := exists_modelOf?_ofSubmissions h
  have hrefused := congrArg Prod.fst (submit_of_some hfirst)
  exact (answer_eq before rest).trans (congrArg some hrefused)

theorem ofSubmissions_concat_of_exists (h : ∃ m' ∈ ms, m'.entity.id = m.entity.id) :
    ofSubmissions (ms ++ [m]) = ofSubmissions ms := by
  obtain ⟨first, hfirst⟩ := exists_modelOf?_ofSubmissions h
  rw [ofSubmissions_concat, submit_of_some hfirst]

theorem find?_type_eq_some_iff (hd : (ms.map (·.entity.id)).Nodup) :
    ms.find? (·.entity.id == t.id) = some m ↔ m ∈ ms ∧ m.entity.id = t.id := by
  refine ⟨mem_of_find?_type, ?_⟩
  rintro ⟨hm, hid⟩
  have hsome : (ms.find? (·.entity.id == t.id)).isSome = true :=
    List.find?_isSome.2 ⟨m, hm, beq_iff_eq.2 hid⟩
  obtain ⟨first, hfirst⟩ := Option.isSome_iff_exists.1 hsome
  obtain ⟨hmem, hfound⟩ := mem_of_find?_type hfirst
  rw [hfirst, List.inj_on_of_nodup_map hd hmem hm (hfound.trans hid.symm)]

theorem modelOf?_ofSubmissions_of_perm (hp : ms.Perm ms') (hd : (ms.map (·.entity.id)).Nodup)
    (t : RecordType) : (ofSubmissions ms).modelOf? t = (ofSubmissions ms').modelOf? t := by
  have hd' : (ms'.map (·.entity.id)).Nodup := (hp.map _).nodup_iff.1 hd
  ext m
  rw [modelOf?_ofSubmissions, modelOf?_ofSubmissions, find?_type_eq_some_iff hd,
    find?_type_eq_some_iff hd', hp.mem_iff]

theorem size_ofSubmissions_of_perm (hp : ms.Perm ms') :
    (ofSubmissions ms).size = (ofSubmissions ms').size := by
  rw [size_ofSubmissions, size_ofSubmissions, List.toFinset_eq_of_perm _ _ (hp.map _)]

end Registry

/-! ### What an inspection asks of a registry -/

namespace Config
variable {P : Type} {config : Config} {declaring : EntityModel} {m : Member P}
  {r r' : Registry}

theorem tryBuild_congr_registry (h : ∀ t, r.modelOf? t = r'.modelOf? t) (kind : ChildKind) :
    Relation.tryBuild { config with registry := r } declaring kind m
      = Relation.tryBuild { config with registry := r' } declaring kind m := by
  have hmodel : ∀ id, ({ config with registry := r } : Config).childModel id m
      = ({ config with registry := r' } : Config).childModel id m := by
    intro id
    unfold childModel
    cases m.childType? with
    | none => rfl
    | some t => simp only [h t]
  unfold Relation.tryBuild Relation.build
  simp only [hmodel]
  rfl

theorem relationByKinds_congr_registry (h : ∀ t, r.modelOf? t = r'.modelOf? t)
    (kinds : List ChildKind) :
    ({ config with registry := r } : Config).relationByKinds declaring m kinds
      = ({ config with registry := r' } : Config).relationByKinds declaring m kinds := by
  induction kinds with
  | nil => rfl
  | cons kind kinds ih =>
    rw [relationByKinds, relationByKinds, ih, Relation.tryBuildLogged, tryBuild_congr_registry h,
      Relation.tryBuildLogged]

theorem inspect_congr_registry (config : Config) (declaring : EntityModel)
    (h : ∀ t, r.modelOf? t = r'.modelOf? t) (ms : List (Member P)) :
    ({ config with registry := r } : Config).inspect declaring ms
      = ({ config with registry := r' } : Config).inspect declaring ms :=
  inspect_congr (fun _ => relationByKinds_congr_registry h config.kinds) ms

end Config

variable {P : Type}

namespace Registry

/-- How the submission of a model is answered that comes after those of `before`. -/
structure Answered (models before : List EntityModel) (m : EntityModel) : Prop where
  accepted : (answers models)[before.length]? = some (.ok m)
    ↔ ∀ m' ∈ before, m'.entity.id ≠ m.entity.id
  refused : (∃ m' ∈ before, m'.entity.id = m.entity.id) →
    (answers models)[before.length]? = some (.error (.duplicateModel m.entity.name))
  unchanged : (∃ m' ∈ before, m'.entity.id = m.entity.id) →
    (∀ t, (ofSubmissions (before ++ [m])).modelOf? t = (ofSubmissions before).modelOf? t)
    ∧ (ofSubmissions (before ++ [m])).size = (ofSubmissions before).size
    ∧ (ofSubmissions (before ++ [m])).isEmpty = (ofSubmissions before).isEmpty

/-- Two runs of submissions make registries that nothing tells apart. -/
structure SameRegistry (P : Type) (models models' : List EntityModel) : Prop where
  modelOf? : ∀ t, (ofSubmissions models).modelOf? t = (ofSubmissions models').modelOf? t
  size : (ofSubmissions models).size = (ofSubmissions models').size
  inspect : ∀ (config : Config) (declaring : EntityModel) (ms : List (Member P)),
    ({ config with registry := ofSubmissions models } : Config).inspect declaring ms
      = ({ config with registry := ofSubmissions models' } : Config).inspect declaring ms
  routing : ∀ (config : Config) (declaring : EntityModel) (ms : List (Member P)) rs rs',
    (({ config with registry := ofSubmissions models } : Config).inspect declaring ms).value
      = .ok rs →
    (({ config with registry := ofSubmissions models' } : Config).inspect declaring ms).value
      = .ok rs' →
    (∀ c p, routeCommand c p rs = routeCommand c p rs')
    ∧ ∀ e p, routeEvent e p rs = routeEvent e p rs'

/-- What a run of submissions to an empty registry comes to: each type has the first model that was
submitted for it, whatever the order of the others. -/
structure FirstStays (P : Type) (models : List EntityModel) : Prop where
  answered : ∀ before m rest, models = before ++ m :: rest → Answered models before m
  first : ∀ t, (ofSubmissions models).modelOf? t = models.find? (·.entity.id == t.id)
  size : (ofSubmissions models).size = (models.map (·.entity.id)).toFinset.card
  reordered : ∀ models', models.Perm models' → (models.map (·.entity.id)).Nodup →
    SameRegistry P models models'

theorem answered_append (before rest : List EntityModel) (m : EntityModel) :
    Answered (before ++ m :: rest) before m where
  accepted := answer_eq_ok_iff
  refused := answer_eq_error
  unchanged := by
    intro h
    rw [ofSubmissions_concat_of_exists h]
    exact ⟨fun _ => rfl, rfl, rfl⟩

theorem sameRegistry_of_perm {models models' : List EntityModel} (hp : models.Perm models')
    (hd : (models.map (·.entity.id)).Nodup) : SameRegistry P models models' where
  modelOf? := modelOf?_ofSubmissions_of_perm hp hd
  size := size_ofSubmissions_of_perm hp
  inspect := fun config declaring ms =>
    config.inspect_congr_registry declaring (modelOf?_ofSubmissions_of_perm hp hd) ms
  routing := by
    intro config declaring ms rs rs' h h'
    rw [config.inspect_congr_registry declaring (modelOf?_ofSubmissions_of_perm hp hd) ms, h'] at h
    cases h
    exact ⟨fun _ _ => rfl, fun _ _ => rfl⟩

end Registry

open Registry in
theorem first_submission_stays (models : List EntityModel) : FirstStays P models where
  answered := by
    rintro before m rest rfl
    exact answered_append before rest m
  first := modelOf?_ofSubmissions models
  size := size_ofSubmissions models
  reordered := fun _ => sameRegistry_of_perm

namespace Shop

def pairModel (d : Definition) : EntityModel where
  entity := d.type
  routingKey := "key"

/-- Models for both kinds of pairs, which share a name but for its parameter, and two for lines. -/
def submitted : List EntityModel :=
  [pairModel pairU32, lineModel, replaceableLineModel, pairModel pairText, shipmentModel, wideModel]

end Shop

open Shop Registry in
/-- In the shop the second model for lines is refused and does not take the place of the first, and
from models that were submitted in reverse an inspection makes the same relations. -/
theorem second_line_model_is_refused :
    (answers submitted)[2]? = some (.error (.duplicateModel line.type.name))
    ∧ (answers submitted)[3]? = some (.ok (pairModel pairText))
    ∧ (ofSubmissions submitted).modelOf? line.type = some lineModel
    ∧ (ofSubmissions submitted).size = 5
    ∧ ({ Shop.config with registry := ofSubmissions [wideModel, lineModel, shipmentModel] }.inspect
        orderModel routedMembers).value = .ok relations := by
  have hrun := first_submission_stays (P := Order) submitted
  have hsecond := hrun.answered (submitted.take 2) replaceableLineModel (submitted.drop 3) rfl
  have hpair := hrun.answered (submitted.take 3) (pairModel pairText) (submitted.drop 4) rfl
  have hthree := first_submission_stays (P := Order) [shipmentModel, lineModel, wideModel]
  have hreversed := hthree.reordered [wideModel, lineModel, shipmentModel]
    (List.reverse_perm [shipmentModel, lineModel, wideModel]).symm (by decide +kernel)
  refine ⟨hsecond.refused ⟨lineModel, ?_, rfl⟩, hpair.accepted.2 ?_, ?_, ?_, ?_⟩
  · exact List.mem_cons_of_mem _ List.mem_cons_self
  · decide +kernel
  · rw [hrun.first]
    rfl
  · rw [hrun.size]
    decide +kernel
  · rw [← hreversed.inspect Shop.config orderModel routedMembers]
    exact inspect_eq

end AggregateRouting
