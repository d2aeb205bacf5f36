import AggregateRouting.RoutingKeys
import Mathlib.Data.List.Forall2
import Mathlib.Data.List.Induction
import Mathlib.Data.List.Nodup

/-! # The routing keys of a model

`ofModel_eq_ok_iff`: the extraction succeeds exactly if the commands of the handlers are distinct
and each handler has its property, and then gives one entry for each handler, in order. So routing
keys answer for a command as the handlers do (`property?_eq`, `isSome_property?_eq`): the loop that
fills them and the list by which a model says what it handles stay in step. `ofModel_eq_error_iff`:
it fails with the fault of the first handler that cannot be entered. -/

namespace Except
variable {ε α β : Type}

theorem bind_eq_ok_iff {x : Except ε α} {f : α → Except ε β} {b : β} :
    x >>= f = .ok b ↔ ∃ a, x = .ok a ∧ f a = .ok b := by
  cases x with
  | error e => simp [bind, Except.bind]
  | ok a => simp [bind, Except.bind]

theorem bind_eq_error_iff {x : Except ε α} {f : α → Except ε β} {e : ε} :
    x >>= f = .error e ↔ x = .error e ∨ ∃ a, x = .ok a ∧ f a = .error e := by
  cases x with
  | error e' => simp [bind, Except.bind]
  | ok a => simp [bind, Except.bind]

theorem map_eq_ok_iff {x : Except ε α} {f : α → β} {b : β} :
    x.map f = .ok b ↔ ∃ a, x = .ok a ∧ f a = b := by
  cases x with
  | error e => simp [Except.map]
  | ok a => simp [Except.map]

theorem exists_eq_ok_of_isOk {x : Except ε α} (h : x.isOk = true) : ∃ a, x = .ok a := by
  cases x with
  | error e => cases h
  | ok a => exact ⟨a, rfl⟩

theorem exists_eq_ok_iff {x : Except ε α} : (∃ a, x = .ok a) ↔ ¬ ∃ e, x = .error e := by
  cases x with
  | error e => simp
  | ok a => simp

theorem map_eq_error_iff {x : Except ε α} {f : α → β} {e : ε} :
    x.map f = .error e ↔ x = .error e := by
  cases x with
  | error e' => simp [Except.map]
  | ok a => simp [Except.map]

end Except

namespace AggregateRouting
variable {chain : List Strategy} {id : MemberId} {model : EntityModel}

namespace EntityModel

def DistinctCommands (m : EntityModel) : Prop :=
  (m.handlers.map (·.command)).Nodup

theorem DistinctCommands.eq_of_command {m : EntityModel} (hd : m.DistinctCommands) {h h' : Handler}
    (hh : h ∈ m.handlers) (hh' : h' ∈ m.handlers) (hc : h.command = h'.command) : h = h' :=
  List.inj_on_of_nodup_map hd hh hh' hc

theorem handler?_mem {m : EntityModel} {command : String} {h : Handler}
    (hh : m.handler? command = some h) : h ∈ m.handlers ∧ h.command = command :=
  ⟨List.mem_of_find?_eq_some hh, by simpa using List.find?_some hh⟩

theorem DistinctCommands.handler?_eq {m : EntityModel} (hd : m.DistinctCommands) {h : Handler}
    (hh : h ∈ m.handlers) : m.handler? h.command = some h := by
  have hs : m.handles h.command = true := handles_iff.2 (List.mem_map_of_mem hh)
  obtain ⟨h', hh'⟩ := Option.isSome_iff_exists.1 hs
  obtain ⟨hmem, hc⟩ := handler?_mem hh'
  rw [hh', hd.eq_of_command hmem hh hc]

/-- The property of a command's payload that a model and a chain give: that of the command's
handler, under the handler's own key or else the key of the model. -/
def routingProperty? (m : EntityModel) (chain : List Strategy) (command : String) :
    Option Property :=
  (m.handler? command).bind fun h =>
    findProperty chain h.payloadType (h.routingKey.getD m.routingKey)

end EntityModel

namespace RoutingKeys

/-- An entry has the command of a handler and the property of its payload. -/
structure IsEntry (chain : List Strategy) (model : EntityModel) (h : Handler)
    (entry : String × Property) : Prop where
  command : entry.1 = h.command
  property : findProperty chain h.payloadType (h.routingKey.getD model.routingKey) = some entry.2

theorem propertyOf_eq_ok_iff {h : Handler} {p : Property} :
    propertyOf chain id model h = .ok p
      ↔ findProperty chain h.payloadType (h.routingKey.getD model.routingKey) = some p := by
  unfold propertyOf EntityModel.keyOf
  cases findProperty chain h.payloadType (h.routingKey.getD model.routingKey) <;> simp

theorem property?_append_singleton_eq_none_iff {keys : RoutingKeys} {n n' : String} {p : Property} :
    property? (keys ++ [(n, p)]) n' = none ↔ keys.property? n' = none ∧ n' ≠ n := by
  by_cases hn : n' = n
  · subst hn
    simp [property?, List.lookup_append]
  · have hb : (n' == n) = false := by simpa using hn
    simp [property?, List.lookup_append, List.lookup_cons, hb, hn]

/-- What the loop over the handlers adds to the routing keys that it has already. The invariant is
that the commands so far and those to come are distinct. -/
theorem extend_eq_ok_iff {keys keys' : RoutingKeys} {hs : List Handler} :
    extend chain id model keys hs = .ok keys'
      ↔ (∀ h ∈ hs, keys.property? h.command = none)
        ∧ (hs.map (·.command)).Nodup
        ∧ ∃ added, List.Forall₂ (IsEntry chain model) hs added ∧ keys' = keys ++ added := by
  induction hs generalizing keys with
  | nil => simp [extend, eq_comm]
  | cons h hs ih =>
    rw [extend, Except.bind_eq_ok_iff, List.map_cons, List.nodup_cons, List.mem_map]
    constructor
    · rintro ⟨p, hp, hrest⟩
      rw [propertyOf_eq_ok_iff] at hp
      split at hrest
      · cases hrest
      · next hnew =>
        obtain ⟨hfresh, hdist, added, hadded, rfl⟩ := ih.1 hrest
        have hfresh' := fun h' hh' => property?_append_singleton_eq_none_iff.1 (hfresh h' hh')
        refine ⟨?_, ⟨?_, hdist⟩, (h.command, p) :: added, .cons ⟨rfl, hp⟩ hadded, by simp⟩
        · intro h' hh'
          rcases List.mem_cons.1 hh' with rfl | hh'
          · simpa using hnew
          · exact (hfresh' h' hh').1
        · rintro ⟨h', hh', hc⟩
          exact (hfresh' h' hh').2 hc
    · rintro ⟨hfresh, ⟨hnot, hdist⟩, added, hadded, rfl⟩
      cases hadded with
      | @cons _ entry _ added hentry hadded =>
        obtain ⟨n, p⟩ := entry
        obtain rfl : n = h.command := hentry.command
        refine ⟨p, propertyOf_eq_ok_iff.2 hentry.property, ?_⟩
        rw [if_neg (by simp [hfresh h])]
        refine ih.2 ⟨fun h' hh' => ?_, hdist, added, hadded, by simp⟩
        exact property?_append_singleton_eq_none_iff.2
          ⟨hfresh h' (List.mem_cons_of_mem _ hh'), fun hc => hnot ⟨h', hh', hc⟩⟩

theorem ofModel_eq_ok_iff {keys : RoutingKeys} :
    ofModel chain id model = .ok keys
      ↔ model.DistinctCommands ∧ List.Forall₂ (IsEntry chain model) model.handlers keys := by
  rw [ofModel, extend_eq_ok_iff]
  simp [property?, EntityModel.DistinctCommands]

theorem property?_eq_of_entries {keys : RoutingKeys} {hs : List Handler}
    (hk : List.Forall₂ (IsEntry chain model) hs keys) (command : String) :
    keys.property? command
      = (hs.find? (·.command == command)).bind fun h =>
          findProperty chain h.payloadType (h.routingKey.getD model.routingKey) := by
  induction hk with
  | nil => rfl
  | @cons h entry hs keys hentry _ ih =>
    obtain ⟨n, p⟩ := entry
    obtain rfl : n = h.command := hentry.command
    by_cases hc : h.command = command
    · subst hc
      simp [property?, hentry.property]
    · have hn : (command == h.command) = false := by simpa using Ne.symm hc
      rw [List.find?_cons_of_neg (by simpa using hc), ← ih]
      simp [property?, List.lookup_cons, hn]

theorem property?_eq {keys : RoutingKeys}
    (hk : List.Forall₂ (IsEntry chain model) model.handlers keys) (command : String) :
    keys.property? command = model.routingProperty? chain command :=
  property?_eq_of_entries hk command

theorem property?_command_eq {keys : RoutingKeys} (hd : model.DistinctCommands)
    (hk : List.Forall₂ (IsEntry chain model) model.handlers keys) {h : Handler}
    (hh : h ∈ model.handlers) :
    keys.property? h.command
      = findProperty chain h.payloadType (h.routingKey.getD model.routingKey) := by
  rw [property?_eq hk, EntityModel.routingProperty?, hd.handler?_eq hh, Option.bind_some]

theorem map_fst_eq_of_entries {keys : RoutingKeys} {hs : List Handler}
    (hk : List.Forall₂ (IsEntry chain model) hs keys) : keys.map (·.1) = hs.map (·.command) := by
  induction hk with
  | nil => rfl
  | cons hentry _ ih => rw [List.map_cons, List.map_cons, hentry.command, ih]

theorem IsEntry.unique {h : Handler} {entry entry' : String × Property}
    (he : IsEntry chain model h entry) (he' : IsEntry chain model h entry') : entry = entry' := by
  have hp : some entry.2 = some entry'.2 := he.property.symm.trans he'.property
  exact Prod.ext (he.command.trans he'.command.symm) (Option.some.inj hp)

theorem eq_of_entries {keys keys' : RoutingKeys} {hs : List Handler}
    (hk : List.Forall₂ (IsEntry chain model) hs keys)
    (hk' : List.Forall₂ (IsEntry chain model) hs keys') : keys = keys' := by
  induction hk generalizing keys' with
  | nil =>
    cases hk'
    rfl
  | cons hentry _ ih =>
    cases hk' with
    | cons hentry' hrest => rw [hentry.unique hentry', ih hrest]

theorem isSome_property?_eq {keys : RoutingKeys}
    (hk : List.Forall₂ (IsEntry chain model) model.handlers keys) (command : String) :
    (keys.property? command).isSome = model.handles command := by
  rw [Bool.eq_iff_iff, EntityModel.handles_iff, ← map_fst_eq_of_entries hk]
  simp only [property?, List.lookup_isSome_iff, beq_iff_eq, List.mem_map]
  constructor <;> rintro ⟨entry, hentry, hc⟩ <;> exact ⟨entry, hentry, hc.symm⟩

/-! ### Failure -/

/-- Each of some handlers of a model has its property, and no two of them have the same command. -/
structure Keyed (chain : List Strategy) (model : EntityModel) (hs : List Handler) : Prop where
  commands : (hs.map (·.command)).Nodup
  property : ∀ h ∈ hs,
    (findProperty chain h.payloadType (h.routingKey.getD model.routingKey)).isSome = true

/-- What is wrong with a handler that comes after others: it has no property or, having one, it has
the command of one of them. -/
inductive HandlerFault (chain : List Strategy) (id : MemberId) (model : EntityModel)
    (before : List Handler) (h : Handler) : ConfigError → Prop
  | noProperty
      (absent : findProperty chain h.payloadType (h.routingKey.getD model.routingKey) = none) :
      HandlerFault chain id model before h
        (.missingRoutingProperty h.payloadType.name (h.routingKey.getD model.routingKey) id.text)
  | taken
      (present : (findProperty chain h.payloadType
        (h.routingKey.getD model.routingKey)).isSome = true)
      (repeated : h.command ∈ before.map (·.command)) :
      HandlerFault chain id model before h (.duplicateHandler h.command model.entity.name)

def FirstFault (chain : List Strategy) (id : MemberId) (model : EntityModel) (e : ConfigError) :
    Prop :=
  ∃ before h after, model.handlers = before ++ h :: after ∧ Keyed chain model before
    ∧ HandlerFault chain id model before h e

theorem Keyed.nil : Keyed chain model [] :=
  ⟨List.nodup_nil, nofun⟩

theorem keyed_append_singleton_iff {hs : List Handler} {h : Handler} :
    Keyed chain model (hs ++ [h])
      ↔ Keyed chain model hs
        ∧ (findProperty chain h.payloadType (h.routingKey.getD model.routingKey)).isSome = true
        ∧ h.command ∉ hs.map (·.command) := by
  have hnodup : ((hs ++ [h]).map (·.command)).Nodup
      ↔ (hs.map (·.command)).Nodup ∧ h.command ∉ hs.map (·.command) := by
    rw [List.map_append, List.map_singleton, List.nodup_append_comm, List.singleton_append,
      List.nodup_cons, and_comm]
  constructor
  · rintro ⟨hd, hp⟩
    obtain ⟨hd, hnot⟩ := hnodup.1 hd
    exact ⟨⟨hd, fun h' hh' => hp h' (List.mem_append_left _ hh')⟩, hp h (by simp), hnot⟩
  · rintro ⟨⟨hd, hp⟩, hh, hnot⟩
    refine ⟨hnodup.2 ⟨hd, hnot⟩, fun h' hh' => ?_⟩
    rcases List.mem_append.1 hh' with hh' | hh'
    · exact hp h' hh'
    · rw [List.mem_singleton.1 hh']
      exact hh

theorem Keyed.exists_entries {hs : List Handler} (hk : Keyed chain model hs) :
    ∃ keys, List.Forall₂ (IsEntry chain model) hs keys := by
  have hp := hk.property
  clear hk
  induction hs with
  | nil => exact ⟨[], .nil⟩
  | cons h hs ih =>
    obtain ⟨p, hh⟩ := Option.isSome_iff_exists.1 (hp h (List.mem_cons_self ..))
    obtain ⟨keys, hkeys⟩ := ih fun h' hh' => hp h' (List.mem_cons_of_mem _ hh')
    exact ⟨(h.command, p) :: keys, .cons ⟨rfl, hh⟩ hkeys⟩

theorem keyed_iff {hs : List Handler} :
    Keyed chain model hs
      ↔ (hs.map (·.command)).Nodup ∧ ∃ keys, List.Forall₂ (IsEntry chain model) hs keys := by
  constructor
  · intro hk
    exact ⟨hk.commands, hk.exists_entries⟩
  · rintro ⟨hd, keys, hkeys⟩
    refine ⟨hd, ?_⟩
    clear hd
    induction hkeys with
    | nil => exact nofun
    | cons hentry _ ih => exact List.forall_mem_cons.2 ⟨by rw [hentry.property]; rfl, ih⟩

theorem exists_ofModel_eq_ok_iff (id : MemberId) :
    (∃ keys, ofModel chain id model = .ok keys) ↔ Keyed chain model model.handlers := by
  simp only [ofModel_eq_ok_iff, exists_and_left]
  exact keyed_iff.symm

theorem extend_append (keys : RoutingKeys) (hs hs' : List Handler) :
    extend chain id model keys (hs ++ hs')
      = extend chain id model keys hs >>= fun keys => extend chain id model keys hs' := by
  induction hs generalizing keys with
  | nil => rfl
  | cons h hs ih =>
    rw [List.cons_append, extend, extend, bind_assoc]
    congr 1
    funext p
    split
    · rfl
    · exact ih _

theorem extend_of_handlerFault {before after : List Handler} {h : Handler} {keys : RoutingKeys}
    {e : ConfigError} (hkeys : List.Forall₂ (IsEntry chain model) before keys)
    (hf : HandlerFault chain id model before h e) :
    extend chain id model keys (h :: after) = .error e := by
  rw [extend, propertyOf, EntityModel.keyOf]
  cases hf with
  | noProperty hp =>
    rw [hp]
    rfl
  | taken hp hc =>
    obtain ⟨p, hp⟩ := Option.isSome_iff_exists.1 hp
    have htaken : (keys.property? h.command).isSome = true := by
      rw [property?, List.lookup_isSome_iff]
      rw [← map_fst_eq_of_entries hkeys] at hc
      obtain ⟨entry, hentry, hc⟩ := List.mem_map.1 hc
      exact ⟨entry, hentry, by simpa using hc.symm⟩
    rw [hp]
    exact if_pos htaken

theorem ofModel_of_firstFault {e : ConfigError} (hf : FirstFault chain id model e) :
    ofModel chain id model = .error e := by
  obtain ⟨before, h, after, hsplit, hk, hf⟩ := hf
  obtain ⟨hd, keys, hkeys⟩ := keyed_iff.1 hk
  have hbefore : extend chain id model [] before = .ok keys :=
    extend_eq_ok_iff.2 ⟨fun _ _ => rfl, hd, keys, hkeys, rfl⟩
  rw [ofModel, hsplit, extend_append, hbefore]
  exact extend_of_handlerFault hkeys hf

theorem exists_handlerFault (id : MemberId) {hs : List Handler} (hn : ¬ Keyed chain model hs) :
    ∃ before h after e, hs = before ++ h :: after ∧ Keyed chain model before
      ∧ HandlerFault chain id model before h e := by
  -- From the end: either the last handler is the first that cannot be entered, or an earlier one.
  induction hs using List.reverseRecOn with
  | nil => exact absurd Keyed.nil hn
  | append_singleton hs h ih =>
    by_cases hk : Keyed chain model hs
    · cases hp : findProperty chain h.payloadType (h.routingKey.getD model.routingKey) with
      | none => exact ⟨hs, h, [], _, rfl, hk, .noProperty hp⟩
      | some p =>
        have hc : h.command ∈ hs.map (·.command) := by
          by_contra hc
          exact hn (keyed_append_singleton_iff.2 ⟨hk, by rw [hp]; rfl, hc⟩)
        exact ⟨hs, h, [], _, rfl, hk, .taken (by rw [hp]; rfl) hc⟩
    · obtain ⟨before, h', after, e, rfl, hk, hf⟩ := ih hk
      exact ⟨before, h', after ++ [h], e, by simp, hk, hf⟩

theorem ofModel_eq_error_iff {e : ConfigError} :
    ofModel chain id model = .error e ↔ FirstFault chain id model e := by
  refine ⟨fun h => ?_, ofModel_of_firstFault⟩
  -- There is some first fault, and the loop can end with that one only.
  have hn : ¬ Keyed chain model model.handlers := fun hk => by
    obtain ⟨keys, hkeys⟩ := (exists_ofModel_eq_ok_iff id).2 hk
    rw [h] at hkeys
    cases hkeys
  obtain ⟨before, h', after, e', hsplit, hk, hf⟩ := exists_handlerFault id hn
  have he := ofModel_of_firstFault ⟨before, h', after, hsplit, hk, hf⟩
  rw [h] at he
  obtain rfl := Except.error.inj he
  exact ⟨before, h', after, hsplit, hk, hf⟩

end RoutingKeys
end AggregateRouting
