import AggregateRouting.Proofs.AbsentValues
import AggregateRouting.Proofs.Completeness
import AggregateRouting.Proofs.Faults
import AggregateRouting.Proofs.Ownership

/-! # Commands and events that carry the same value

Commands look for the first child with their routing value and events for all of them. So a command
is for the first child to which an event with the same value passes (`target_eq_first_recipient`).
What a child's own data carries is the value by which the child is found, for the properties of a
message and of a child are looked up alike (`own_data_finds_child`). -/

namespace AggregateRouting
variable {P : Type} {config : Config} {declaring : EntityModel} {kind : ChildKind} {m : Member P}
  {metadata : Metadata} {r : Relation P} {c : Command} {e : Event} {p : P} {v : RoutingValue}

namespace Relation.WellBuilt

theorem value_target_of_commandValue? (h : WellBuilt config declaring m metadata r)
    (hk : r.kind ≠ .single) (hv : r.commandValue? c = some v) :
    (r.target c p).value
      = (r.children p).find? fun child => config.identifierValue? r.model child = some v := by
  rw [Relation.value_target_of_commandValue? hk hv, h.identifies_eq]

theorem value_recipients_of_eventValue? (h : WellBuilt config declaring m metadata r)
    (hm : r.mode = .routingKey) (hv : r.eventValue? e = some v) :
    (r.recipients e p).value
      = (r.children p).filter fun child => config.identifierValue? r.model child = some v := by
  rw [Relation.value_recipients_of_eventValue? hm hv, h.identifies_eq]

theorem commandValue?_of_handles (h : WellBuilt config declaring m metadata r)
    (hh : r.handles c.name = true)
    (hv : ∀ property, r.routingKeys.property? c.name = some property →
      property.value? c.payload.val = some v) : r.commandValue? c = some v := by
  have hkey : (r.routingKeys.property? c.name).isSome = true := by
    rw [RoutingKeys.isSome_property?_eq h.entries]
    exact hh
  obtain ⟨property, hp⟩ := Option.isSome_iff_exists.1 hkey
  rw [commandValue?, hp, Option.bind_some]
  exact hv property hp

theorem eventValue?_eq_identifierValue? (h : WellBuilt config declaring m metadata r)
    (hhook : config.hook = .payload) (hkey : r.eventRoutingKey = none)
    (htype : e.payloadType = r.model.entity) :
    r.eventValue? e = config.identifierValue? r.model e.payload.val := by
  have hmeta : metadata.eventRoutingKey = none := h.eventRoutingKey_eq.symm.trans hkey
  -- The property of the event is looked up in its own type, which the payload depends on, so the
  -- types are exchanged in the look-up alone.
  have hfind : findProperty config.strategies e.payloadType r.model.routingKey
      = config.findProperty r.model.entity r.model.routingKey := by
    rw [htype, Config.findProperty]
  rw [h.eventValue?_eq, Config.eventValue?, hhook, hmeta, Option.getD_none, EventHook.payload,
    hfind, Config.identifierValue?]

theorem commandValue?_eq_identifierValue? (h : WellBuilt config declaring m metadata r)
    {handler : Handler} (hh : handler ∈ r.model.handlers)
    (htype : handler.payloadType = r.model.entity) (hkey : handler.routingKey = none)
    (hname : c.name = handler.command) :
    r.commandValue? c = config.identifierValue? r.model c.payload.val := by
  rw [commandValue?, hname, RoutingKeys.property?_command_eq h.commands h.entries hh, htype, hkey,
    Option.getD_none, Config.identifierValue?, Config.findProperty]

end Relation.WellBuilt

/-- A command that is handled and an event that carry the same value are compared with the children
alike: the command is for the first child to which the event passes, and for nobody exactly if the
event passes to nobody. -/
theorem target_eq_first_recipient
    (h : Relation.tryBuild config declaring kind m = .ok (some r)) (hk : kind ≠ .single)
    (hm : r.mode = .routingKey) (hh : r.handles c.name = true)
    (hc : ∀ property, r.routingKeys.property? c.name = some property →
      property.value? c.payload.val = some v)
    (he : r.hook e r.eventKey r.strategies = some v) (p : P) :
    (r.target c p).value = (r.recipients e p).value.head?
    ∧ ((r.target c p).value = none ↔ (r.recipients e p).value = [])
    ∧ (r.recipients e p).value
      = (r.children p).filter fun child => config.identifierValue? r.model child = some v := by
  obtain ⟨rfl, metadata, hr⟩ := Relation.tryBuild_eq_ok_some_iff_wellBuilt.1 h
  have htarget := hr.value_target_of_commandValue? (p := p) hk (hr.commandValue?_of_handles hh hc)
  have hrecipients := hr.value_recipients_of_eventValue? (p := p) hm he
  have hhead : (r.target c p).value = (r.recipients e p).value.head? := by
    rw [htarget, hrecipients, List.head?_filter]
  refine ⟨hhead, ?_, hrecipients⟩
  rw [hhead, List.head?_eq_none_iff]

open Shop in
/-- In the shop a change of the second line is for the line to which its shipping passes. -/
theorem change_and_shipping_find_second_line :
    ∃ r ∈ relations, r.handles "line.change_qty" = true
      ∧ (r.target (changeLineQty.commandOf [("line_id", .int 2)]) stocked).value
          = (r.recipients (lineShipped.eventOf "line.shipped" [("line_id", .int 2)])
              stocked).value.head?
      ∧ (r.target (changeLineQty.commandOf [("line_id", .int 2)]) stocked).value.map label
          = some "Line:l2" := by
  have hlines : ∃ r ∈ relations, r.kind ≠ .single ∧ r.mode = .routingKey
      ∧ r.handles "line.change_qty" = true
      ∧ r.commandValue? (changeLineQty.commandOf [("line_id", .int 2)]) = some (.int 2)
      ∧ r.eventValue? (lineShipped.eventOf "line.shipped" [("line_id", .int 2)]) = some (.int 2)
      ∧ (r.target (changeLineQty.commandOf [("line_id", .int 2)]) stocked).value.map label
          = some "Line:l2" := by decide +kernel
  obtain ⟨r, hmem, hk, hm, hh, hc, he, hlabel⟩ := hlines
  obtain ⟨kind, m, h⟩ := exists_tryBuild_of_inspect inspect_eq hmem
  obtain ⟨rfl, -⟩ := (Relation.complete_of_tryBuild h).kind_eq
  obtain ⟨hhead, -⟩ := target_eq_first_recipient h hk hm hh
    (fun property hp => by rwa [Relation.commandValue?, hp, Option.bind_some] at hc) he stocked
  exact ⟨r, hmem, hh, hhead, hlabel⟩

/-- Where strategies answer with properties of the type they are asked about, a child is found by
its own data: by an event about it, and by a command whose payload is of the children's type and has
the value that identifies the child. -/
theorem own_data_finds_child :
    (∀ (chain : List Strategy), (∀ s ∈ chain, s.IsLookup) →
        ∀ (table : PropertyTable) (id : TypeId) (name : String), ∀ s ∈ chain,
          s.AnswersOwn (table.recordType id name))
    ∧ ∀ (config : Config) (declaring : EntityModel) (kind : ChildKind) (m : Member P)
        (r : Relation P), Relation.tryBuild config declaring kind m = .ok (some r) →
        (∀ s ∈ config.strategies, s.AnswersOwn r.model.entity) →
        ∀ (p : P), ∀ child ∈ r.children p,
          (r.mode = .routingKey → config.hook = .payload → r.eventRoutingKey = none →
            ∀ e : Event, e.payloadType = r.model.entity →
              config.identifierValue? r.model e.payload.val
                = config.identifierValue? r.model child →
              child ∈ (r.recipients e p).value
              ∧ (r.recipients e p).value = (r.children p).filter fun other =>
                  config.identifierValue? r.model other = config.identifierValue? r.model child)
          ∧ (kind ≠ .single →
            ∀ handler ∈ r.model.handlers, handler.payloadType = r.model.entity →
              handler.routingKey = none → ∀ c : Command, c.name = handler.command →
              config.identifierValue? r.model c.payload.val
                = config.identifierValue? r.model child →
              ∃ before first after, r.children p = before ++ first :: after
                ∧ (r.target c p).value = some first
                ∧ config.identifierValue? r.model first = config.identifierValue? r.model child
                ∧ ∀ other ∈ before, config.identifierValue? r.model other
                    ≠ config.identifierValue? r.model child) := by
  refine ⟨fun chain hchain table id name s hs =>
    Strategy.answersOwn_of_isLookup (hchain s hs) PropertyTable.ownsProperties_recordType, ?_⟩
  intro config declaring kind m r h hown p child hchild
  obtain ⟨rfl, metadata, hr⟩ := Relation.tryBuild_eq_ok_some_iff_wellBuilt.1 h
  constructor
  · intro hm hhook hkey e htype hsame
    obtain ⟨v, hv⟩ := hr.exists_identifierValue? hown (.inr hm) hchild
    have he : r.eventValue? e = some v := by
      rw [hr.eventValue?_eq_identifierValue? hhook hkey htype, hsame, hv]
    have hrecipients := hr.value_recipients_of_eventValue? (p := p) hm he
    rw [hv]
    refine ⟨?_, hrecipients⟩
    rw [hrecipients]
    exact List.mem_filter.2 ⟨hchild, decide_eq_true hv⟩
  · intro hk handler hh htype hkey c hname hsame
    obtain ⟨v, hv⟩ := hr.exists_identifierValue? hown (.inl hk) hchild
    have hc : r.commandValue? c = some v := by
      rw [hr.commandValue?_eq_identifierValue? hh htype hkey hname, hsame, hv]
    have htarget := hr.value_target_of_commandValue? (p := p) hk hc
    have hsome : (r.target c p).value.isSome = true := by
      rw [htarget, List.find?_isSome]
      exact ⟨child, hchild, decide_eq_true hv⟩
    obtain ⟨first, hfirst⟩ := Option.isSome_iff_exists.1 hsome
    obtain ⟨hvalue, before, after, hsplit, hbefore⟩ :=
      List.find?_eq_some_iff_append.1 (htarget.symm.trans hfirst)
    rw [hv]
    exact ⟨before, first, after, hsplit, hfirst, of_decide_eq_true hvalue,
      fun other hother => by simpa using hbefore other hother⟩

namespace Shop

def replaceableLineModel : EntityModel where
  entity := line.type
  routingKey := "lineId"
  handlers := [{ command := "line.replace", payloadType := line.type }]

def replacingConfig : Config where
  registry := { models := [replaceableLineModel] }

def keyedLines : Member Order :=
  { Order.sequence "lines" line (·.lines) with metadata := some { mode := .routingKey } }

def replaceLine (values : List (String × RoutingValue)) : Command :=
  { name := "line.replace", payloadType := line.type, payload := line.recordOf values }

theorem exists_wellBuilt_keyedLines :
    ∃ r, Relation.tryBuild replacingConfig orderModel .sequence keyedLines = .ok (some r)
      ∧ r.model = replaceableLineModel
      ∧ r.WellBuilt replacingConfig orderModel keyedLines { mode := .routingKey } := by
  have hfound : replacingConfig.modelFor? keyedLines = some replaceableLineModel := rfl
  have hid : (findProperty Strategy.defaults line.type "lineId").isSome = true := by decide +kernel
  have hsound : Relation.Sound replacingConfig .sequence keyedLines { mode := .routingKey }
      replaceableLineModel :=
    ⟨hfound, ⟨List.nodup_singleton _, fun _ hh => List.mem_singleton.1 hh ▸ hid⟩, fun _ => hid,
      nofun⟩
  have hbuilt : ∃ r, Relation.tryBuild replacingConfig orderModel .sequence keyedLines
      = .ok (some r) :=
    Relation.exists_tryBuild_eq_ok_some_iff.2 ⟨rfl, _, rfl, _, hsound⟩
  obtain ⟨r, h⟩ := hbuilt
  obtain ⟨-, metadata, hr⟩ := Relation.tryBuild_eq_ok_some_iff_wellBuilt.1 h
  obtain rfl : metadata = { mode := .routingKey } := Option.some.inj hr.metadata_eq.symm
  exact ⟨r, h, Option.some.inj (hr.model_eq.symm.trans hfound), hr⟩

end Shop

open Shop in
/-- In the shop an event about the second line passes to that line, and another line with its number
takes its place. -/
theorem second_line_is_found_by_own_data :
    ∃ r, Relation.tryBuild replacingConfig orderModel .sequence keyedLines = .ok (some r)
      ∧ (line.recordOf [("tag", .text "l2"), ("line_id", .int 2)]).val
          ∈ (r.recipients (line.eventOf "line.changed" [("line_id", .int 2)]) stocked).value
      ∧ ∃ first ∈ r.children stocked,
          (r.target (replaceLine [("line_id", .int 2), ("qty", .int 9)]) stocked).value = some first
          ∧ replacingConfig.identifierValue? replaceableLineModel first = some (.int 2) := by
  obtain ⟨r, h, hmodel, hr⟩ := exists_wellBuilt_keyedLines
  have hchild : (line.recordOf [("tag", .text "l2"), ("line_id", .int 2)]).val
      ∈ r.children stocked := by
    rw [hr.children_eq]
    exact .tail _ (.head _)
  have hheld : replacingConfig.identifierValue? replaceableLineModel
      (line.recordOf [("tag", .text "l2"), ("line_id", .int 2)]).val = some (.int 2) := by
    decide +kernel
  have hchanged : replacingConfig.identifierValue? replaceableLineModel
      (line.recordOf [("line_id", .int 2)]).val = some (.int 2) := by decide +kernel
  have hreplace : replacingConfig.identifierValue? replaceableLineModel
      (line.recordOf [("line_id", .int 2), ("qty", .int 9)]).val = some (.int 2) := by
    decide +kernel
  obtain ⟨hlookups, hfinds⟩ := own_data_finds_child (P := Order)
  have hown : ∀ s ∈ replacingConfig.strategies, s.AnswersOwn r.model.entity := by
    rw [hmodel]
    exact hlookups Strategy.defaults (fun _ => Strategy.isLookup_of_mem_defaults) _ _ _
  obtain ⟨hevent, hcommand⟩ := hfinds _ _ _ _ r h hown stocked _ hchild
  rw [hmodel] at hevent hcommand
  obtain ⟨hmem, -⟩ := hevent hr.mode_eq rfl hr.eventRoutingKey_eq
    (line.eventOf "line.changed" [("line_id", .int 2)]) rfl (hchanged.trans hheld.symm)
  obtain ⟨before, first, after, hsplit, hfirst, hsame, -⟩ :=
    hcommand nofun _ (List.mem_singleton_self _) rfl rfl
      (replaceLine [("line_id", .int 2), ("qty", .int 9)]) rfl (hreplace.trans hheld.symm)
  refine ⟨r, h, hmem, first, ?_, hfirst, hsame.trans hheld⟩
  rw [hsplit]
  exact List.mem_append_right _ (List.mem_cons_self ..)

end AggregateRouting
