import AggregateRouting.Proofs.Faults

/-! # The extraction of routing keys

The handlers of a model are entered one after the other (`routingKeys_outcome`). If each has its
property and no two have the same command, there is an entry for every one of them; otherwise the
extraction ends at the least index whose handler cannot be entered after those before it. That a
handler has no property counts before that its command is taken. -/

namespace AggregateRouting
variable {chain : List Strategy} {id : MemberId} {model : EntityModel} {hs : List Handler}
  {h : Handler} {e : ConfigError}

namespace RoutingKeys

theorem forall_not_handlerFault_iff (id : MemberId) :
    (∀ e, ¬ HandlerFault chain id model hs h e)
      ↔ (findProperty chain h.payloadType (h.routingKey.getD model.routingKey)).isSome = true
        ∧ h.command ∉ hs.map (·.command) := by
  constructor
  · intro hno
    have hp : (findProperty chain h.payloadType
        (h.routingKey.getD model.routingKey)).isSome = true := by
      by_contra hp
      exact hno _ (.noProperty (by simpa using hp))
    exact ⟨hp, fun hc => hno _ (.taken hp hc)⟩
  · rintro ⟨hp, hc⟩ e hf
    cases hf with
    | noProperty absent =>
      rw [absent] at hp
      cases hp
    | taken _ repeated => exact hc repeated

theorem keyed_take_iff (id : MemberId) (n : Nat) :
    Keyed chain model (hs.take n)
      ↔ ∀ i < n, ∀ h, hs[i]? = some h → ∀ e, ¬ HandlerFault chain id model (hs.take i) h e := by
  induction n with
  | zero => simp [Keyed.nil]
  | succ n ih =>
    rw [List.take_add_one, Nat.forall_lt_succ_right]
    cases hn : hs[n]? with
    | none => simp [ih]
    | some h =>
      rw [Option.toList_some, keyed_append_singleton_iff, ih, ← forall_not_handlerFault_iff id]
      simp

theorem firstFault_iff_least :
    FirstFault chain id model e
      ↔ ∃ i h, model.handlers[i]? = some h
        ∧ HandlerFault chain id model (model.handlers.take i) h e
        ∧ ∀ j < i, ∀ h', model.handlers[j]? = some h' →
            ∀ e', ¬ HandlerFault chain id model (model.handlers.take j) h' e' := by
  constructor
  · rintro ⟨before, h, after, hsplit, hk, hf⟩
    have htake : model.handlers.take before.length = before := by
      rw [hsplit, List.take_left]
    refine ⟨before.length, h, by simp [hsplit], ?_, ?_⟩
    · rwa [htake]
    · rw [← keyed_take_iff id, htake]
      exact hk
  · rintro ⟨i, h, hi, hf, hleast⟩
    obtain ⟨hlt, rfl⟩ := List.getElem?_eq_some_iff.1 hi
    refine ⟨model.handlers.take i, _, model.handlers.drop (i + 1), ?_, ?_, hf⟩
    · rw [← List.drop_eq_getElem_cons hlt, List.take_append_drop]
    · exact (keyed_take_iff id i).2 hleast

theorem keyed_handlers_iff :
    Keyed chain model model.handlers
      ↔ model.DistinctCommands ∧ ∀ h ∈ model.handlers,
        (findProperty chain h.payloadType (h.routingKey.getD model.routingKey)).isSome = true :=
  ⟨fun hk => ⟨hk.commands, hk.property⟩, fun ⟨hd, hp⟩ => ⟨hd, hp⟩⟩

end RoutingKeys

open RoutingKeys in
/-- Routing keys can be extracted exactly if commands are distinct and each handler has the property
for its key. Otherwise the fault is that of the least index whose handler has one: a missing
property comes before a repeated command. -/
theorem routingKeys_outcome (chain : List Strategy) (id : MemberId) (model : EntityModel) :
    ((∃ keys, ofModel chain id model = .ok keys)
        ↔ model.DistinctCommands ∧ ∀ h ∈ model.handlers,
          (findProperty chain h.payloadType (h.routingKey.getD model.routingKey)).isSome = true)
    ∧ (∀ keys, ofModel chain id model = .ok keys →
        keys.map (·.1) = model.handlers.map (·.command)
        ∧ (∀ n, (keys.property? n).isSome = true ↔ n ∈ model.handlers.map (·.command))
        ∧ ∀ h ∈ model.handlers, keys.property? h.command
            = findProperty chain h.payloadType (h.routingKey.getD model.routingKey))
    ∧ ∀ e, ofModel chain id model = .error e
        ↔ ∃ i h, model.handlers[i]? = some h
          ∧ HandlerFault chain id model (model.handlers.take i) h e
          ∧ ∀ j < i, ∀ h', model.handlers[j]? = some h' →
              ∀ e', ¬ HandlerFault chain id model (model.handlers.take j) h' e' := by
  refine ⟨(exists_ofModel_eq_ok_iff id).trans keyed_handlers_iff, fun keys hkeys => ?_,
    fun e => ofModel_eq_error_iff.trans firstFault_iff_least⟩
  obtain ⟨hd, hentries⟩ := ofModel_eq_ok_iff.1 hkeys
  refine ⟨map_fst_eq_of_entries hentries, fun n => ?_,
    fun h hh => property?_command_eq hd hentries hh⟩
  rw [isSome_property?_eq hentries, EntityModel.handles_iff]

open Shop RoutingKeys in
/-- In the shop the keys of lines are those of three commands, one of which has a key of its own. In
the faulty model of parcels the command of the second handler is that of the first, but it is the
missing property that is reported. -/
theorem second_handler_lacks_property :
    (∃ keys, ofModel Strategy.defaults ⟨"shop::Order", "lines"⟩ lineModel = .ok keys
        ∧ keys.map (·.1) = ["line.change_qty", "line.remove", "line.split"]
        ∧ (keys.property? "line.remove").map (·.name) = some "lineNo")
    ∧ ofModel Strategy.defaults ⟨"shop::Order", "crates"⟩ faultyModel
        = .error (.missingRoutingProperty "shop::ReweighParcel" "nr" "shop::Order.crates") := by
  obtain ⟨hlines, hkeys, -⟩ :=
    routingKeys_outcome Strategy.defaults ⟨"shop::Order", "lines"⟩ lineModel
  obtain ⟨-, -, herror⟩ :=
    routingKeys_outcome Strategy.defaults ⟨"shop::Order", "crates"⟩ faultyModel
  constructor
  · have hp : ∀ h ∈ lineModel.handlers, (findProperty Strategy.defaults h.payloadType
        (h.routingKey.getD lineModel.routingKey)).isSome = true := by decide +kernel
    have hd : (lineModel.handlers.map (·.command)).Nodup := by decide +kernel
    obtain ⟨keys, hok⟩ := hlines.2 ⟨hd, hp⟩
    obtain ⟨hnames, -, hproperty⟩ := hkeys keys hok
    refine ⟨keys, hok, hnames, ?_⟩
    have hremove := hproperty lineModel.handlers[1] (List.getElem_mem _)
    rw [show "line.remove" = lineModel.handlers[1].command from rfl, hremove]
    decide +kernel
  · have hnone : (findProperty Strategy.defaults reweighParcel.type "nr").isNone = true := by
      decide +kernel
    have hfirst : (findProperty Strategy.defaults reweighParcel.type "parcelId").isSome = true := by
      decide +kernel
    refine (herror _).2 ⟨1, _, rfl, .noProperty (Option.isNone_iff_eq_none.1 hnone), ?_⟩
    intro j hj h hh
    obtain rfl : j = 0 := Nat.lt_one_iff.1 hj
    cases hh
    exact (forall_not_handlerFault_iff _).2 ⟨hfirst, List.not_mem_nil⟩

end AggregateRouting
