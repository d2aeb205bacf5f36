import AggregateRouting.Proofs.Matching

/-! # Types of children and payloads

Children and payloads are records of any type, and a property reads only from the records of the
type that owns it. `routing_respects_types`: where strategies answer with properties of the type
they are asked about, the one reading that can fail is that of a command's payload, and it fails
exactly if the payload is not of the type that the handler declares. A child that routing delivers
is a child that the parent holds (`Delivers.mem_children`), and those are of the type of the
relation's model. -/

namespace AggregateRouting
variable {P : Type} {config : Config} {declaring : EntityModel} {m : Member P}
  {metadata : Metadata} {r : Relation P} {c : Command} {e : Event} {p : P} {child : Record}

theorem Property.value?_of_type {property : Property} {record : Record}
    (h : record.type = property.ownerId) :
    property.value? record = some (property.read record) :=
  value?_eq_some_iff.2 ⟨h, rfl⟩

theorem EventHook.isSome_payload_iff {chain : List Strategy} {key : String}
    (hown : ∀ s ∈ chain, s.AnswersOwn e.payloadType) :
    (EventHook.payload e key chain).isSome = true
      ↔ (findProperty chain e.payloadType key).isSome = true := by
  rw [EventHook.payload]
  cases hp : findProperty chain e.payloadType key with
  | none => simp
  | some property =>
    have htype : e.payload.val.type = property.ownerId := by
      rw [findProperty_ownerId hown hp]
      exact e.payload.property
    rw [Option.bind_some, Property.value?_of_type htype]
    simp

theorem mem_of_routeCommand {rs : List (Relation P)} {t : Target P}
    (h : (routeCommand c p rs).value = some t) :
    t.relation ∈ rs ∧ t.relation.accepts c.name = true
      ∧ (t.relation.target c p).value = some t.child := by
  rw [value_routeCommand] at h
  obtain ⟨r, hr, ht⟩ := List.exists_of_findSome?_eq_some h
  obtain ⟨child, hchild, rfl⟩ := Option.map_eq_some_iff.1 ht
  obtain ⟨hmem, haccepts⟩ := List.mem_filter.1 hr
  exact ⟨hmem, haccepts, hchild⟩

namespace Relation

theorem mem_children_of_target (h : (r.target c p).value = some child) : child ∈ r.children p := by
  by_cases hk : r.kind = .single
  · rw [target, hk] at h
    exact List.mem_of_head? h
  · rw [target_of_kind hk, value_targetByKey] at h
    obtain ⟨v, -, hfind⟩ := Option.bind_eq_some_iff.1 h
    exact List.mem_of_find?_eq_some hfind

theorem mem_children_of_mem_candidates (h : child ∈ r.candidates p) : child ∈ r.children p := by
  unfold candidates at h
  split at h
  · cases h
  · exact h

theorem mem_children_of_mem_recipients (hm : r.mode ≠ .custom)
    (h : child ∈ (r.recipients e p).value) : child ∈ r.children p := by
  cases hmode : r.mode with
  | none =>
    rw [recipients_of_none hmode] at h
    cases h
  | all =>
    rw [recipients_of_all hmode] at h
    exact h
  | routingKey =>
    rw [value_recipients_of_routingKey hmode] at h
    cases hv : r.eventValue? e with
    | none =>
      rw [hv] at h
      cases h
    | some v =>
      rw [hv] at h
      exact List.mem_of_mem_filter h
  | custom => exact absurd hmode hm

/-- A relation delivers a child: to a command, on its own or as one of the relations among which the
command is routed, or to an event, as a candidate or, where no filter decides, as a recipient. -/
inductive Delivers (r : Relation P) (p : P) (child : Record) : Prop
  | routed {c : Command} {rs : List (Relation P)}
      (h : (routeCommand c p rs).value = some ⟨r, child⟩)
  | target {c : Command} (h : (r.target c p).value = some child)
  | candidate (h : child ∈ r.candidates p)
  | recipient {e : Event} (unfiltered : r.mode ≠ .custom) (h : child ∈ (r.recipients e p).value)

theorem Delivers.mem_children (h : r.Delivers p child) : child ∈ r.children p := by
  cases h with
  | routed h =>
    obtain ⟨-, -, htarget⟩ := mem_of_routeCommand h
    exact mem_children_of_target htarget
  | target h => exact mem_children_of_target h
  | candidate h => exact mem_children_of_mem_candidates h
  | recipient hm h => exact mem_children_of_mem_recipients hm h

namespace WellBuilt

theorem identifier_value? (h : WellBuilt config declaring m metadata r)
    (hown : ∀ s ∈ config.strategies, s.AnswersOwn r.model.entity) {identifier : Property}
    (hid : r.identifier = some identifier) (hc : child ∈ r.children p) :
    identifier.value? child = some (identifier.read child) := by
  rw [h.identifier_eq] at hid
  have htype : child.type = identifier.ownerId := by
    rw [h.type_of_mem_children hc, findProperty_ownerId hown hid]
  exact Property.value?_of_type htype

theorem exists_key_of_handler (h : WellBuilt config declaring m metadata r) {handler : Handler}
    (hh : handler ∈ r.model.handlers)
    (hown : ∀ s ∈ config.strategies, s.AnswersOwn handler.payloadType)
    (hname : c.name = handler.command) :
    ∃ property, r.routingKeys.property? c.name = some property
      ∧ property.ownerId = handler.payloadType.id := by
  obtain ⟨property, hkey, hfind⟩ := h.key_eq hh
  exact ⟨property, hname ▸ hkey, findProperty_ownerId hown hfind⟩

theorem target_of_foreign_payload (h : WellBuilt config declaring m metadata r)
    (hk : r.kind ≠ .single) {handler : Handler} (hh : handler ∈ r.model.handlers)
    (hown : ∀ s ∈ config.strategies, s.AnswersOwn handler.payloadType)
    (hname : c.name = handler.command) (htype : c.payloadType.id ≠ handler.payloadType.id) :
    r.target c p = .quiet none := by
  obtain ⟨property, hkey, howner⟩ := h.exists_key_of_handler hh hown hname
  have hnone : property.value? c.payload.val = none := by
    rw [Property.value?_eq_none_iff, howner]
    exact fun ht => htype (c.payload.property.symm.trans ht)
  rw [target_of_kind hk, targetByKey, hkey]
  dsimp only
  rw [hnone]

theorem exists_commandValue?_of_declared_payload (h : WellBuilt config declaring m metadata r)
    {handler : Handler} (hh : handler ∈ r.model.handlers)
    (hown : ∀ s ∈ config.strategies, s.AnswersOwn handler.payloadType)
    (hname : c.name = handler.command) (htype : c.payloadType.id = handler.payloadType.id) :
    ∃ v, r.commandValue? c = some v := by
  obtain ⟨property, hkey, howner⟩ := h.exists_key_of_handler hh hown hname
  have hread : property.value? c.payload.val = some (property.read c.payload.val) := by
    apply Property.value?_of_type
    rw [howner, ← htype]
    exact c.payload.property
  exact ⟨_, by rw [commandValue?, hkey, Option.bind_some, hread]⟩

theorem target_eq_none_iff (h : WellBuilt config declaring m metadata r)
    (hown : ∀ s ∈ config.strategies, s.AnswersOwn r.model.entity) (hk : r.kind ≠ .single)
    {identifier : Property} (hid : r.identifier = some identifier) {v : RoutingValue}
    (hv : r.commandValue? c = some v) :
    (r.target c p).value = none
      ↔ ∀ child ∈ r.children p, ∃ w, identifier.value? child = some w ∧ w ≠ v := by
  rw [Relation.value_target_of_commandValue? hk hv, List.find?_eq_none]
  refine forall₂_congr fun child hc => ?_
  have hread := h.identifier_value? hown hid hc
  simp [identifies, hid, hread]

end WellBuilt
end Relation

/-- What routing delivers is of the type of the relation's model and has the value by which it is
identified. A command whose payload is of another type than its handler declares is for nobody, and
one of that type is for nobody only if every child has another value. -/
theorem routing_respects_types :
    (∀ (chain : List Strategy), (∀ s ∈ chain, s.IsLookup) →
        ∀ (table : PropertyTable) (id : TypeId) (name : String), ∀ s ∈ chain,
          s.AnswersOwn (table.recordType id name))
    ∧ ∀ (config : Config) (declaring : EntityModel) (kind : ChildKind) (m : Member P)
        (r : Relation P), Relation.tryBuild config declaring kind m = .ok (some r) →
        (∀ s ∈ config.strategies, s.AnswersOwn r.model.entity) →
        ∀ p : P,
          (∀ child, r.Delivers p child → child.type = r.model.entity.id
            ∧ ∀ identifier, r.identifier = some identifier →
                ∃ v, identifier.value? child = some v)
          ∧ (kind ≠ .single → ∀ handler ∈ r.model.handlers,
              (∀ s ∈ config.strategies, s.AnswersOwn handler.payloadType) →
              ∀ c : Command, c.name = handler.command →
                (c.payloadType.same handler.payloadType = false → r.target c p = .quiet none)
                ∧ (c.payloadType.same handler.payloadType = true →
                    ∃ identifier v, r.identifier = some identifier ∧ r.commandValue? c = some v
                      ∧ ((r.target c p).value = none ↔ ∀ child ∈ r.children p,
                          ∃ w, identifier.value? child = some w ∧ w ≠ v)))
          ∧ ∀ (e : Event) (key : String), (∀ s ∈ config.strategies, s.AnswersOwn e.payloadType) →
              ((EventHook.payload e key r.strategies).isSome = true
                ↔ (config.findProperty e.payloadType key).isSome = true) := by
  refine ⟨fun chain hchain table id name s hs =>
    Strategy.answersOwn_of_isLookup (hchain s hs) PropertyTable.ownsProperties_recordType, ?_⟩
  intro config declaring kind m r h hown p
  obtain ⟨rfl, metadata, hr⟩ := Relation.tryBuild_eq_ok_some_iff_wellBuilt.1 h
  refine ⟨fun child hd => ?_,
    fun hk handler hh hpayload c hname => ⟨fun hother => ?_, fun hsame => ?_⟩,
    fun e key hevent => ?_⟩
  · have hc := hd.mem_children
    exact ⟨hr.type_of_mem_children hc, fun identifier hid =>
      ⟨_, hr.identifier_value? hown hid hc⟩⟩
  · exact hr.target_of_foreign_payload hk hh hpayload hname
      (by simpa [RecordType.same] using hother)
  · have htype : c.payloadType.id = handler.payloadType.id := by
      simpa [RecordType.same] using hsame
    obtain ⟨v, hv⟩ := hr.exists_commandValue?_of_declared_payload hh hpayload hname htype
    obtain ⟨identifier, hid⟩ := Option.isSome_iff_exists.1 (hr.identified (.inl hk))
    exact ⟨identifier, v, hid, hv, hr.target_eq_none_iff hown hk hid hv⟩
  · rw [hr.strategies_eq]
    exact EventHook.isSome_payload_iff hevent

namespace Shop

/-- The order to change the second line, sent as the order to replace it. Its payload has the number
of the line under the name that a line has it under. -/
def misdirectedChange : Command :=
  { changeLineQty.commandOf [("line_id", .int 2)] with name := "line.replace" }

end Shop

open Shop in
/-- In the shop the misdirected change is for nobody although the second line has its value, and the
order to replace a third line is for nobody because no line has that number. -/
theorem misdirected_change_finds_no_line :
    ∃ r, Relation.tryBuild replacingConfig orderModel .sequence keyedLines = .ok (some r)
      ∧ misdirectedChange.payload.val.read "line_id" = .int 2
      ∧ r.target misdirectedChange stocked = .quiet none
      ∧ (∀ child ∈ r.children stocked, child.type = line.type.id)
      ∧ (∃ identifier v, r.identifier = some identifier
          ∧ r.commandValue? (replaceLine [("line_id", .int 3)]) = some v
          ∧ ((r.target (replaceLine [("line_id", .int 3)]) stocked).value = none
              ↔ ∀ child ∈ r.children stocked, ∃ w, identifier.value? child = some w ∧ w ≠ v))
      ∧ (EventHook.payload (lineShipped.eventOf "line.shipped" []) "lineId" r.strategies).isSome
          = true := by
  obtain ⟨r, h, hmodel, hr⟩ := exists_wellBuilt_keyedLines
  obtain ⟨hlookups, htypes⟩ := routing_respects_types (P := Order)
  have hown (table : PropertyTable) (id : TypeId) (name : String) :
      ∀ s ∈ replacingConfig.strategies, s.AnswersOwn (table.recordType id name) :=
    hlookups Strategy.defaults (fun _ => Strategy.isLookup_of_mem_defaults) table id name
  have hentity : ∀ s ∈ replacingConfig.strategies, s.AnswersOwn r.model.entity := by
    rw [hmodel]
    exact hown _ _ _
  obtain ⟨hdelivered, hcommand, hevent⟩ := htypes _ _ _ _ r h hentity stocked
  rw [hmodel] at hdelivered hcommand
  have hreplace := hcommand nofun _ (List.mem_singleton_self _) (hown _ _ _)
  obtain ⟨hforeign, -⟩ := hreplace misdirectedChange rfl
  obtain ⟨-, hdeclared⟩ := hreplace (replaceLine [("line_id", .int 3)]) rfl
  refine ⟨r, h, by decide +kernel, hforeign (by decide +kernel), fun child hc => ?_,
    hdeclared (by decide +kernel), (hevent _ "lineId" (hown _ _ _)).2 (by decide +kernel)⟩
  have hcandidate : child ∈ r.candidates stocked := by
    rw [Relation.candidates, hr.mode_eq]
    exact hc
  exact (hdelivered child (.candidate hcandidate)).1

end AggregateRouting
