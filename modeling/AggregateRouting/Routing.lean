import AggregateRouting.Relation

/-! # Routing

A command passes to one child at most: the first one that a relation finds for it. An event passes
to the children that each relation picks, relation after relation. -/

namespace AggregateRouting
namespace Relation
variable {P : Type}

def identifies (r : Relation P) (v : RoutingValue) (child : Record) : Bool :=
  match r.identifier with
  | some p => p.value? child == some v
  | none => false

def targetByKey (r : Relation P) (c : Command) (p : P) : Logged (Option Record) :=
  match r.routingKeys.property? c.name with
  | none => .reporting (.commandNotHandled r.member c.name) none
  | some property =>
    match property.value? c.payload.val with
    | none => .quiet none
    | some v =>
      match (r.children p).find? (r.identifies v) with
      | none => .reporting (.noChildMatches r.member c.name v) none
      | some child => .quiet (some child)

/-- The child that a command is for: the only one, or the one with its routing value. -/
def target (r : Relation P) (c : Command) (p : P) : Logged (Option Record) :=
  match r.kind with
  | .single => .quiet (r.children p).head?
  | .sequence | .keyed => r.targetByKey c p

def resolves (r : Relation P) (c : Command) (p : P) : Bool :=
  r.accepts c.name && (r.target c p).value.isSome

def candidates (r : Relation P) (p : P) : List Record :=
  if r.mode = .none then [] else r.children p

def recipientsByKey (r : Relation P) (e : Event) (children : List Record) : Logged (List Record) :=
  match r.identifier with
  | none => .quiet []
  | some identifier =>
    match r.hook e r.eventKey r.strategies with
    | none => .reporting (.eventWithoutValue r.member e.name r.eventKey) []
    | some v => .quiet (children.filter fun child => identifier.value? child == some v)

/-- The children that an event passes to. Where there are no candidates, nobody is asked. -/
def recipients (r : Relation P) (e : Event) (p : P) : Logged (List Record) :=
  match r.candidates p with
  | [] => .quiet []
  | children =>
    match r.mode with
    | .none | .all => .quiet children
    | .routingKey => r.recipientsByKey e children
    | .custom =>
      match r.filter with
      | some filter => .quiet (filter e children)
      | none => .quiet []

end Relation

structure Target (P : Type) where
  relation : Relation P
  child : Record

def Target.outline {P : Type} (t : Target P) : String :=
  Outline.record "CommandTarget" [("member", Quoted.ofText t.relation.member.text)]

variable {P : Type}

/-- The child that a command is for by the first relation that accepts it and finds one. -/
def routeCommand (c : Command) (p : P) : List (Relation P) → Logged (Option (Target P))
  | [] => .quiet none
  | r :: rs => do
    if r.accepts c.name then
      match ← r.target c p with
      | some child => return some ⟨r, child⟩
      | none => routeCommand c p rs
    else routeCommand c p rs

def routeEvent (e : Event) (p : P) : List (Relation P) → Logged (List Record)
  | [] => .quiet []
  | r :: rs => return (← r.recipients e p) ++ (← routeEvent e p rs)

/-! ## The answer and the log apart -/

variable {c : Command} {e : Event} {p : P}

theorem value_routeCommand (rs : List (Relation P)) :
    (routeCommand c p rs).value
      = (rs.filter (·.accepts c.name)).findSome? fun r =>
        (r.target c p).value.map (Target.mk r) := by
  induction rs with
  | nil => rfl
  | cons r rs ih =>
    unfold routeCommand
    by_cases hr : r.accepts c.name = true
    · simp only [hr, if_true, List.filter_cons, List.findSome?_cons, Logged.value_bind]
      cases (r.target c p).value with
      | none => exact ih
      | some child => rfl
    · simp only [hr, List.filter_cons]
      exact ih

namespace Relation
variable {r : Relation P} {child : Record}

/-- Commands and events compare what identifies a child with a routing value alike. -/
theorem identifies_of_identifier {identifier : Property} (h : r.identifier = some identifier)
    (v : RoutingValue) : r.identifies v = fun child => identifier.value? child == some v := by
  funext child
  rw [identifies, h]

theorem log_targetByKey_of_some (h : (r.targetByKey c p).value = some child) :
    (r.targetByKey c p).log = [] := by
  unfold targetByKey at h ⊢
  cases hk : r.routingKeys.property? c.name with
  | none => simp [hk] at h
  | some property =>
    cases hv : property.value? c.payload.val with
    | none => simp [hv]
    | some v =>
      cases hf : (r.children p).find? (r.identifies v) with
      | none => simp [hk, hv, hf] at h
      | some child => simp [hv, hf]

theorem log_target_of_some (h : (r.target c p).value = some child) : (r.target c p).log = [] := by
  unfold target at h ⊢
  cases hk : r.kind with
  | single => rfl
  | sequence | keyed =>
    rw [hk] at h
    exact log_targetByKey_of_some h

end Relation

theorem log_routeCommand (rs : List (Relation P)) :
    (routeCommand c p rs).log
      = (rs.takeWhile fun r => !r.resolves c p).flatMap fun r =>
        if r.accepts c.name then (r.target c p).log else [] := by
  induction rs with
  | nil => rfl
  | cons r rs ih =>
    unfold routeCommand
    by_cases ha : r.accepts c.name = true
    · cases ht : (r.target c p).value with
      | none => simp [ha, ht, ih, Relation.resolves]
      | some child => simp [ha, ht, Relation.resolves, Relation.log_target_of_some ht]
    · simp [ha, ih, Relation.resolves]

theorem value_routeEvent (rs : List (Relation P)) :
    (routeEvent e p rs).value = rs.flatMap fun r => (r.recipients e p).value := by
  induction rs with
  | nil => rfl
  | cons r rs ih => simp [routeEvent, ih]

theorem log_routeEvent (rs : List (Relation P)) :
    (routeEvent e p rs).log = rs.flatMap fun r => (r.recipients e p).log := by
  induction rs with
  | nil => rfl
  | cons r rs ih => simp [routeEvent, ih]

end AggregateRouting
