import AggregateRouting.Proofs.Independence

/-! # Silenced events

Where the effective mode forwards events to no child or to all of them, children need not be told
apart and no filter is needed (`Metadata.Undemanding`). What fails under such a declaration fails
under every other (`tryBuild_eq_error_of_undemanding`), and what is built under one is what is built
under any other, the stored mode apart (`tryBuild_of_undemanding`). With events not forwarded the
effective mode is "none" whatever is declared, so mode and filter make no difference to anything
(`silenced_events_are_unobservable`). -/

namespace Except

theorem exists_eq_ok_some {ε α : Type} {x : Except ε (Option α)}
    (h : x.toOption.join.isSome = true) : ∃ a, x = .ok (some a) := by
  cases x with
  | error e => cases h
  | ok a? =>
    cases a? with
    | none => cases h
    | some a => exact ⟨a, rfl⟩

end Except

namespace AggregateRouting
variable {P : Type} {config : Config} {declaring : EntityModel} {kind : ChildKind} {m : Member P}
  {a b : Metadata} {r r' : Relation P} {e : ConfigError}

namespace Metadata

def forwarding (a : Metadata) (forwardsEvents : Bool) (mode : ForwardingMode) : Metadata :=
  { a with forwardsEvents := forwardsEvents, mode := mode }

/-- The declaration with events not forwarded, though a mode is declared and perhaps a filter. -/
def silenced (a : Metadata) (mode : ForwardingMode) (filter : Option EventFilter) : Metadata :=
  { a with forwardsEvents := false, mode := mode, filter := filter }

/-- The effective mode neither tells children apart nor picks them by a filter. -/
def Undemanding (a : Metadata) : Prop :=
  a.effectiveMode = .none ∨ a.effectiveMode = .all

namespace Undemanding

theorem ne_routingKey (h : a.Undemanding) : a.effectiveMode ≠ .routingKey := by
  intro hmode
  rcases h with h | h <;> rw [hmode] at h <;> cases h

theorem ne_custom (h : a.Undemanding) : a.effectiveMode ≠ .custom := by
  intro hmode
  rcases h with h | h <;> rw [hmode] at h <;> cases h

end Undemanding

end Metadata

def Member.declared (m : Member P) (a : Metadata) : Member P :=
  { m with metadata := some a }

namespace Relation

def redeclared (r : Relation P) (a : Metadata) : Relation P :=
  { r with source := r.source.declared a, mode := a.effectiveMode }

/-! ### What is built under undemanding declarations -/

/-- The faults under an undemanding declaration are of the model and the handlers, or that children
of a collection cannot be told apart. None has to do with the declaration. -/
theorem Fault.of_undemanding {id : MemberId} (ha : a.Undemanding)
    (hf : Fault config id kind (m.declared a) a e) (b : Metadata) :
    Fault config id kind (m.declared b) b e := by
  cases hf with
  | modelNotFound ht hnone => exact .modelNotFound ht hnone
  | routingKeys hfound hfault => exact .routingKeys hfound hfault
  | missingIdentifier hfound hkeyed hneed hnone =>
    have hkind : kind ≠ .single := hneed.resolve_right ha.ne_routingKey
    exact .missingIdentifier hfound hkeyed (.inl hkind) hnone
  | missingFilter _ _ _ hc _ => exact absurd hc ha.ne_custom

theorem tryBuild_eq_error_of_undemanding (ha : a.Undemanding)
    (h : tryBuild config declaring kind (m.declared a) = .error e) (b : Metadata) :
    tryBuild config declaring kind (m.declared b) = .error e := by
  obtain ⟨hk, metadata, hm, hf⟩ := tryBuild_eq_error_iff.1 h
  obtain rfl : a = metadata := Option.some.inj hm
  exact tryBuild_eq_error_iff.2 ⟨hk, b, rfl, hf.of_undemanding ha b⟩

theorem tryBuild_declared_eq_ok_none_iff :
    tryBuild config declaring kind (m.declared a) = .ok none ↔ m.kind? ≠ some kind := by
  rw [tryBuild_eq_ok_none_iff]
  exact or_iff_right nofun

theorem WellBuilt.redeclared (hb : b.Undemanding) (hc : a.forwardsCommands = b.forwardsCommands)
    (hk : a.eventRoutingKey = b.eventRoutingKey)
    (h : WellBuilt config declaring (m.declared a) a r) :
    WellBuilt config declaring (m.declared b) b { r.redeclared b with filter := none } where
  source_eq := by
    show r.source.declared b = m.declared b
    rw [h.source_eq]
    rfl
  member_eq := h.member_eq
  kind_eq := h.kind_eq
  metadata_eq := rfl
  model_eq := h.model_eq
  forwardsCommands_eq := h.forwardsCommands_eq.trans hc
  mode_eq := rfl
  eventRoutingKey_eq := h.eventRoutingKey_eq.trans hk
  hook_eq := h.hook_eq
  strategies_eq := h.strategies_eq
  commands := h.commands
  entries := h.entries
  identifier_eq := h.identifier_eq
  identified := by
    intro hneed
    exact h.identified (.inl (hneed.resolve_right hb.ne_routingKey))
  filter_eq := (if_neg hb.ne_custom).symm
  filtered := fun hc => absurd hc hb.ne_custom

theorem tryBuild_eq_ok_of_undemanding (hb : b.Undemanding)
    (hc : a.forwardsCommands = b.forwardsCommands) (hk : a.eventRoutingKey = b.eventRoutingKey)
    (h : tryBuild config declaring kind (m.declared a) = .ok (some r)) :
    tryBuild config declaring kind (m.declared b)
      = .ok (some { r.redeclared b with filter := none }) := by
  obtain ⟨hkind, metadata, hw⟩ := tryBuild_eq_ok_some_iff_wellBuilt.1 h
  obtain rfl : a = metadata := Option.some.inj hw.metadata_eq
  exact tryBuild_eq_ok_some_iff_wellBuilt.2 ⟨hkind, b, hw.redeclared hb hc hk⟩

theorem filter_eq_none_of_undemanding (ha : a.Undemanding)
    (h : tryBuild config declaring kind (m.declared a) = .ok (some r)) : r.filter = none := by
  obtain ⟨-, metadata, hw⟩ := tryBuild_eq_ok_some_iff_wellBuilt.1 h
  obtain rfl : a = metadata := Option.some.inj hw.metadata_eq
  rw [hw.filter_eq, hw.mode_eq, if_neg ha.ne_custom]

theorem tryBuild_of_undemanding (ha : a.Undemanding) (hb : b.Undemanding)
    (hc : a.forwardsCommands = b.forwardsCommands) (hk : a.eventRoutingKey = b.eventRoutingKey) :
    tryBuild config declaring kind (m.declared a)
      = (tryBuild config declaring kind (m.declared b)).map (Option.map (·.redeclared a)) := by
  cases h : tryBuild config declaring kind (m.declared b) with
  | error e => exact tryBuild_eq_error_of_undemanding hb h a
  | ok relation? =>
    cases relation? with
    | none =>
      have hkind := tryBuild_declared_eq_ok_none_iff.1 h
      exact tryBuild_declared_eq_ok_none_iff.2 hkind
    | some r =>
      have hr := tryBuild_eq_ok_of_undemanding ha hc.symm hk.symm h
      have hf : r.redeclared a = { r.redeclared a with filter := none } := by
        rw [← filter_eq_none_of_undemanding hb h]
        rfl
      rw [hr, ← hf]
      rfl

theorem isOk_tryBuild_of_undemanding (hb : b.Undemanding)
    (h : (tryBuild config declaring kind (m.declared a)).isOk = true) :
    (tryBuild config declaring kind (m.declared b)).isOk = true := by
  cases hr : tryBuild config declaring kind (m.declared b) with
  | ok relation? => rfl
  | error e =>
    rw [tryBuild_eq_error_of_undemanding hb hr a] at h
    cases h

/-! ### Relations that nothing tells apart -/

theorem SameForCommands.refl (r : Relation P) : r.SameForCommands r :=
  ⟨rfl, rfl, rfl, rfl, rfl, rfl, rfl⟩

theorem SameForEvents.refl (r : Relation P) : r.SameForEvents r :=
  ⟨rfl, rfl, rfl, rfl, rfl, rfl, rfl, rfl⟩

/-- Two relations in whose place, among any others, a command finds the same child of the same
member and an event the same children, with the same reports, and which are described alike. -/
structure Indistinguishable (r r' : Relation P) : Prop where
  target : ∀ c p, r.target c p = r'.target c p
  commands : ∀ before after c p,
    Option.Rel (fun t t' => t.relation.member = t'.relation.member ∧ t.child = t'.child)
        (routeCommand c p (before ++ r :: after)).value
        (routeCommand c p (before ++ r' :: after)).value
      ∧ (routeCommand c p (before ++ r :: after)).log
        = (routeCommand c p (before ++ r' :: after)).log
  events : ∀ before after e p,
    routeEvent e p (before ++ r :: after) = routeEvent e p (before ++ r' :: after)
  outline : r.outline = r'.outline
  created : r.created = r'.created

theorem forall₂_in_place {R : Relation P → Relation P → Prop} (hR : ∀ r, R r r) (h : R r r')
    (before after : List (Relation P)) :
    List.Forall₂ R (before ++ r :: after) (before ++ r' :: after) :=
  List.rel_append (List.forall₂_same.2 fun x _ => hR x)
    (.cons h (List.forall₂_same.2 fun x _ => hR x))

theorem indistinguishable_redeclared (h : r.mode = a.effectiveMode) :
    (r.redeclared a).Indistinguishable r where
  target := fun _ _ => rfl
  commands := by
    intro before after c p
    have hr : (r.redeclared a).SameForCommands r := ⟨rfl, rfl, rfl, rfl, rfl, rfl, rfl⟩
    have hsame := forall₂_in_place SameForCommands.refl hr before after
    obtain ⟨hvalue, hlog⟩ := routeCommand_congr hsame c p
    exact ⟨hvalue.imp fun t t' ht => ⟨(List.forall₂_zip hsame ht.1).member, ht.2⟩, hlog⟩
  events := by
    intro before after e p
    have hr : (r.redeclared a).SameForEvents r := ⟨rfl, rfl, h.symm, rfl, rfl, rfl, rfl, rfl⟩
    exact routeEvent_congr (forall₂_in_place SameForEvents.refl hr before after) e p
  outline := by simp only [Relation.outline, Relation.redeclared, h]
  created := by simp only [Relation.created, Relation.redeclared, h]

/-- Two outcomes of building a relation: the same fault, nothing twice, or two relations that are
related by `R`. -/
inductive SameOutcome (R : Relation P → Relation P → Prop) :
    Except ConfigError (Option (Relation P)) → Except ConfigError (Option (Relation P)) → Prop
  | fault (e : ConfigError) : SameOutcome R (.error e) (.error e)
  | passed : SameOutcome R (.ok none) (.ok none)
  | built {r r' : Relation P} (h : R r r') : SameOutcome R (.ok (some r)) (.ok (some r'))

theorem mode_eq_of_tryBuild (h : tryBuild config declaring kind (m.declared a) = .ok (some r)) :
    r.mode = a.effectiveMode := by
  obtain ⟨-, metadata, hw⟩ := tryBuild_eq_ok_some_iff_wellBuilt.1 h
  obtain rfl : a = metadata := Option.some.inj hw.metadata_eq
  exact hw.mode_eq

def SameSilence : (outcome outcome' : Except ConfigError (Option (Relation P))) → Prop :=
  SameOutcome fun r r' => r.mode = .none ∧ r'.mode = .none ∧ r.Indistinguishable r'

theorem sameSilence_of_none (ha : a.effectiveMode = .none) (hb : b.effectiveMode = .none)
    (hc : a.forwardsCommands = b.forwardsCommands) (hk : a.eventRoutingKey = b.eventRoutingKey) :
    SameSilence
      (tryBuild config declaring kind (m.declared a))
      (tryBuild config declaring kind (m.declared b)) := by
  rw [tryBuild_of_undemanding (.inl ha) (.inl hb) hc hk]
  cases h : tryBuild config declaring kind (m.declared b) with
  | error e => exact .fault e
  | ok relation? =>
    cases relation? with
    | none => exact .passed
    | some r =>
      have hr : r.mode = .none := (mode_eq_of_tryBuild h).trans hb
      exact .built ⟨ha, hr, indistinguishable_redeclared (hr.trans ha.symm)⟩

end Relation

theorem routeEvent_of_none (hr : r.mode = .none) (ev : Event) (p : P)
    (before after : List (Relation P)) :
    routeEvent ev p (before ++ r :: after) = routeEvent ev p (before ++ after) := by
  induction before with
  | nil =>
    rw [List.nil_append, List.nil_append, routeEvent, Relation.recipients_of_none hr]
    exact bind_pure _
  | cons r' before ih => rw [List.cons_append, List.cons_append, routeEvent, routeEvent, ih]

/-- Of a member that forwards no events the mode and the filter are not observable, and the modes
"none" and "all" ask for no more than any other. -/
structure Silencing (config : Config) (declaring : EntityModel) (kind : ChildKind) (m : Member P)
    (a : Metadata) : Prop where
  alike : ∀ mode filter mode' filter', Relation.SameSilence
    (Relation.tryBuild config declaring kind (m.declared (a.silenced mode filter)))
    (Relation.tryBuild config declaring kind (m.declared (a.silenced mode' filter')))
  as_none : ∀ mode filter, Relation.SameSilence
    (Relation.tryBuild config declaring kind (m.declared (a.silenced mode filter)))
    (Relation.tryBuild config declaring kind (m.declared (a.forwarding true .none)))
  quiet : ∀ mode filter r,
    Relation.tryBuild config declaring kind (m.declared (a.silenced mode filter)) = .ok (some r) →
      (∀ p, r.candidates p = [])
      ∧ (∀ e p, r.recipients e p = .quiet [])
      ∧ ∀ e p before after, routeEvent e p (before ++ r :: after) = routeEvent e p (before ++ after)
  monotone : ∀ events mode events' mode',
    ForwardingMode.effective events' mode' = .none
        ∨ ForwardingMode.effective events' mode' = .all →
      (Relation.tryBuild config declaring kind
        (m.declared (a.forwarding events mode))).isOk = true →
      (Relation.tryBuild config declaring kind
        (m.declared (a.forwarding events' mode'))).isOk = true
  rebuilt : ∀ events mode events' mode' r,
    ForwardingMode.effective events' mode' = .none
        ∨ ForwardingMode.effective events' mode' = .all →
      Relation.tryBuild config declaring kind (m.declared (a.forwarding events mode))
        = .ok (some r) →
      Relation.tryBuild config declaring kind (m.declared (a.forwarding events' mode'))
        = .ok (some { r.redeclared (a.forwarding events' mode') with filter := none })
  none_as_all : ∀ events mode events' mode',
    ForwardingMode.effective events mode = .none →
      ForwardingMode.effective events' mode' = .all →
      Relation.tryBuild config declaring kind (m.declared (a.forwarding events mode))
        = (Relation.tryBuild config declaring kind
            (m.declared (a.forwarding events' mode'))).map
          (Option.map (·.redeclared (a.forwarding events mode)))

theorem silenced_events_are_unobservable (config : Config) (declaring : EntityModel)
    (kind : ChildKind) (m : Member P) (a : Metadata) : Silencing config declaring kind m a where
  alike := fun _ _ _ _ => Relation.sameSilence_of_none rfl rfl rfl rfl
  as_none := fun _ _ => Relation.sameSilence_of_none rfl rfl rfl rfl
  quiet := by
    intro mode filter r h
    have hr : r.mode = .none := Relation.mode_eq_of_tryBuild h
    exact ⟨fun p => if_pos hr, fun e p => Relation.recipients_of_none hr,
      fun e p => routeEvent_of_none hr e p⟩
  monotone := by
    intro events mode events' mode' hmode'
    have hundemanding : (a.forwarding events' mode').Undemanding := hmode'
    exact Relation.isOk_tryBuild_of_undemanding hundemanding
  rebuilt := by
    intro events mode events' mode' r hmode'
    have hundemanding : (a.forwarding events' mode').Undemanding := hmode'
    exact Relation.tryBuild_eq_ok_of_undemanding hundemanding rfl rfl
  none_as_all := by
    intro events mode events' mode' hmode hmode'
    exact Relation.tryBuild_of_undemanding (.inl hmode) (.inr hmode') rfl rfl

namespace Shop

def plainLines : Member Order :=
  Order.sequence "lines" line (·.lines)

end Shop

open Shop in
/-- In the shop lines cannot be declared to be told of events by a filter that is missing. Silenced
they can, and are told of nothing; and as they can be told by key, they can all be told. -/
theorem unfiltered_lines_are_silenced :
    (Relation.tryBuild Shop.config orderModel .sequence
        (plainLines.declared { mode := .custom })).isOk = false
    ∧ (∃ r, Relation.tryBuild Shop.config orderModel .sequence
          (plainLines.declared (({} : Metadata).silenced .custom none)) = .ok (some r)
        ∧ routeEvent (lineShipped.eventOf "line.shipped" [("line_id", .int 2)]) stocked [r]
          = .quiet [])
    ∧ (Relation.tryBuild Shop.config orderModel .sequence
        (plainLines.declared (({} : Metadata).forwarding true .routingKey))).isOk = true
    ∧ (Relation.tryBuild Shop.config orderModel .sequence
        (plainLines.declared (({} : Metadata).forwarding true .all))).isOk = true
    ∧ (∃ r, Relation.tryBuild Shop.config orderModel .sequence
          (plainLines.declared (({} : Metadata).forwarding true .all)) = .ok (some r)
        ∧ Relation.tryBuild Shop.config orderModel .sequence
            (plainLines.declared (({} : Metadata).forwarding false .all))
          = .ok (some (r.redeclared (({} : Metadata).forwarding false .all)))) := by
  have h := silenced_events_are_unobservable Shop.config orderModel .sequence plainLines {}
  have hquiet : (Relation.tryBuild Shop.config orderModel .sequence (plainLines.declared
      (({} : Metadata).silenced .custom none))).toOption.join.isSome = true := by decide +kernel
  have hkey : (Relation.tryBuild Shop.config orderModel .sequence (plainLines.declared
      (({} : Metadata).forwarding true .routingKey))).toOption.join.isSome = true := by
    decide +kernel
  obtain ⟨quiet, hquiet⟩ := Except.exists_eq_ok_some hquiet
  obtain ⟨keyed, hkey⟩ := Except.exists_eq_ok_some hkey
  have hkeyed : (Relation.tryBuild Shop.config orderModel .sequence (plainLines.declared
      (({} : Metadata).forwarding true .routingKey))).isOk = true := by rw [hkey]; rfl
  have hall := h.rebuilt true .routingKey true .all keyed (.inr rfl) hkey
  refine ⟨by decide +kernel, ⟨quiet, hquiet, ?_⟩, hkeyed,
    h.monotone true .routingKey true .all (.inr rfl) hkeyed, ⟨_, hall, ?_⟩⟩
  · exact (h.quiet .custom none quiet hquiet).2.2 _ stocked [] []
  · rw [h.none_as_all false .all true .all rfl rfl, hall]
    rfl

end AggregateRouting
