import AggregateRouting.ConfigError
import AggregateRouting.EntityModel

/-! # The registry of entity models

At most one model for each entity type. Main statement: a registered model is found under its type,
and no other look-up changes. -/

namespace AggregateRouting

/-- Models in the order in which they were registered, no two of the same entity type. -/
structure Registry where
  models : List EntityModel := []
  distinct : models.Pairwise (fun m m' => m.entity.id ≠ m'.entity.id) := by simp

namespace Registry

def empty : Registry := {}

def size (r : Registry) : Nat :=
  r.models.length

def isEmpty (r : Registry) : Bool :=
  r.models.isEmpty

def modelOf? (r : Registry) (t : RecordType) : Option EntityModel :=
  r.models.find? (·.entity.id == t.id)

theorem modelOf?_eq_none_iff {r : Registry} {t : RecordType} :
    r.modelOf? t = none ↔ ∀ m ∈ r.models, m.entity.id ≠ t.id := by
  simp [modelOf?]

def add (r : Registry) (m : EntityModel) (h : r.modelOf? m.entity = none) : Registry where
  models := r.models ++ [m]
  distinct := by
    simpa [List.pairwise_append, r.distinct] using modelOf?_eq_none_iff.1 h

/-- Submits a model, which is added unless its entity type has one already: the answer, and the
registry afterwards. -/
def submit (r : Registry) (m : EntityModel) : Except ConfigError EntityModel × Registry :=
  if h : r.modelOf? m.entity = none then (.ok m, r.add m h)
  else (.error (.duplicateModel m.entity.name), r)

def register (r : Registry) (m : EntityModel) : Except ConfigError Registry :=
  match r.submit m with
  | (.ok _, r') => .ok r'
  | (.error e, _) => .error e

def submitAll (r : Registry) : List EntityModel → List (Except ConfigError EntityModel) × Registry
  | [] => ([], r)
  | m :: ms =>
    let (answer, r') := r.submit m
    let (answers, last) := r'.submitAll ms
    (answer :: answers, last)

theorem modelOf?_add {r : Registry} {m : EntityModel} (h : r.modelOf? m.entity = none)
    (t : RecordType) :
    (r.add m h).modelOf? t = if m.entity.id = t.id then some m else r.modelOf? t := by
  by_cases ht : m.entity.id = t.id
  · have hr : r.models.find? (·.entity.id == t.id) = none := by rw [← ht]; exact h
    simp [add, modelOf?, List.find?_append, hr, ht]
  · simp [add, modelOf?, List.find?_append, ht]

end Registry
end AggregateRouting
