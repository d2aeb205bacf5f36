import AggregateRouting.Declaration.Expansion
import AggregateRouting.Declaration.RecordType
import AggregateRouting.Proofs.RoutingKeys
import AggregateRouting.Shop.Catalog

/-! # What a property table says

The entries of a field's `property` attributes say whether the field is left out and under which
name it is a property otherwise (`Field.skipped`, `Field.propertyName`). A table grows by a field in
both of its lists or in none (`PropertyTable.extend_eq_ok_iff`), so the lists stay side by side
(`PropertyTable.Aligned`), and in the end they hold the fields that are not left out, in order
(`PropertyTable.foldlM_extend_eq_ok_iff`). So each property of a structure that is accepted reads
the field that it was made from (`property_table_is_faithful`). -/

namespace AggregateRouting
variable {τ : Type}

/-! ### What the attributes of a field say -/

namespace Entry

def skip : Entry :=
  { key := .name "skip" }

def rename (name : String) : Entry :=
  { key := .name "rename", value := some (.text name) }

def rename? (e : Entry) : Option String :=
  match e.key, e.value with
  | .name "rename", some (.text name) => some name
  | _, _ => none

end Entry

def Attribute.entries (a : Attribute) : List Entry :=
  match a.argument with
  | .group _ ts => Source.entries ts
  | .nothing | .equals _ => []

namespace Field

def entries (f : Field τ) : List Entry :=
  (f.attributes.filter (·.isProperty)).flatMap (·.entries)

def skipped (f : Field τ) : Bool :=
  f.entries.any (·.key = .name "skip")

/-- The name that a field has as a property: the one that it is given, or else its own. -/
def propertyName (f : Field τ) : String :=
  (f.entries.findSome? (·.rename?)).getD f.name

def entry (f : Field τ) : PropertyEntry :=
  ⟨f.propertyName, f.name⟩

def propertyNames (fs : List (Field τ)) : List String :=
  (fs.filter (!·.skipped)).map (·.propertyName)

theorem propertyNames_cons (f : Field τ) (fs : List (Field τ)) :
    propertyNames (f :: fs)
      = if f.skipped then propertyNames fs else f.propertyName :: propertyNames fs := by
  cases h : f.skipped <;> simp [propertyNames, h]

end Field

/-! ### Reading the attributes -/

theorem Entry.eq_skip_iff {e : Entry} :
    e = .skip ↔ e.key = .name "skip" ∧ e.value = none ∧ e.more = false := by
  obtain ⟨key, value, more⟩ := e
  simp [Entry.skip]

theorem Entry.eq_rename_iff {e : Entry} {name : String} :
    e = .rename name ↔ e.key = .name "rename" ∧ e.value = some (.text name) ∧ e.more = false := by
  obtain ⟨key, value, more⟩ := e
  simp [Entry.rename]

theorem Entry.text_eq_ok_iff {e : Entry} {name : String} :
    e.text = .ok name ↔ e.value = some (.text name) ∧ e.more = false := by
  unfold Entry.text
  rcases e.value with _ | _ | _ | _ <;> cases e.more <;> simp

namespace FieldOptions
variable {o o' : FieldOptions} {e : Entry} {es : List Entry}

theorem read_eq_ok_iff :
    o.read e = .ok o'
      ↔ e = .skip ∧ o' = { o with skip := true }
        ∨ ∃ name, e = .rename name ∧ o.rename = none ∧ o' = { o with rename := some name } := by
  simp only [Entry.eq_skip_iff, Entry.eq_rename_iff]
  unfold read
  split
  -- Two keys are accepted; an entry with any other one is neither a `skip` nor a `rename`.
  case h_5 hk => cases e.value <;> cases e.more <;> simp [hk, eq_comm]
  case h_6 hk =>
    cases o.rename with
    | some name => simp [hk]
    | none =>
      rw [Except.bind_eq_ok_iff]
      constructor
      · rintro ⟨name, htext, ⟨⟩⟩
        exact .inr ⟨name, ⟨hk, Entry.text_eq_ok_iff.1 htext⟩, rfl, rfl⟩
      · rintro (⟨⟨hskip, -⟩, -⟩ | ⟨name, ⟨-, htext⟩, -, rfl⟩)
        · simp [hk] at hskip
        · exact ⟨name, Entry.text_eq_ok_iff.2 htext, rfl⟩
  all_goals simp_all

theorem foldlM_read_eq_ok (h : es.foldlM read o = .ok o') :
    o'.skip = (o.skip || es.any (·.key = .name "skip"))
      ∧ o'.rename = o.rename.or (es.findSome? (·.rename?)) := by
  induction es generalizing o with
  | nil =>
    cases h
    simp
  | cons e es ih =>
    rw [List.foldlM_cons, Except.bind_eq_ok_iff] at h
    obtain ⟨o₁, he, h⟩ := h
    obtain ⟨hskip, hrename⟩ := ih h
    rcases read_eq_ok_iff.1 he with ⟨rfl, rfl⟩ | ⟨name, rfl, hnone, rfl⟩
    · simp [hskip, hrename, Entry.skip, Entry.rename?]
    · simp [hskip, hrename, hnone, Entry.rename, Entry.rename?]

theorem foldlM_readAttribute_eq_ok {as : List Attribute} (h : as.foldlM readAttribute o = .ok o') :
    (as.flatMap (·.entries)).foldlM read o = .ok o' := by
  induction as generalizing o with
  | nil => exact h
  | cons a as ih =>
    rw [List.foldlM_cons, Except.bind_eq_ok_iff] at h
    obtain ⟨o₁, ha, h⟩ := h
    rw [List.flatMap_cons, List.foldlM_append, Except.bind_eq_ok_iff]
    refine ⟨o₁, ?_, ih h⟩
    unfold readAttribute at ha
    unfold Attribute.entries
    cases hargument : a.argument with
    | group b ts => simpa [hargument] using ha
    | nothing | equals value => simp [hargument] at ha

end FieldOptions

namespace Field

theorem options_eq_ok {f : Field τ} {o : FieldOptions} (h : f.options = .ok o) :
    o.skip = f.skipped ∧ o.rename.getD f.name = f.propertyName := by
  obtain ⟨hskip, hrename⟩ :=
    FieldOptions.foldlM_read_eq_ok (FieldOptions.foldlM_readAttribute_eq_ok h)
  rw [hskip, hrename]
  exact ⟨Bool.false_or _, rfl⟩

end Field

/-! ### Tables -/

namespace PropertyTable
variable {t t' : PropertyTable} {f : Field τ} {fs : List (Field τ)}

theorem extend_of_options {o : FieldOptions} (h : f.options = .ok o) (t : PropertyTable) :
    t.extend f
      = if f.skipped then .ok t
        else if f.propertyName ∈ t.names then .error (.duplicateProperty f.propertyName)
        else .ok ⟨t.names ++ [f.propertyName], t.fields ++ [f.name]⟩ := by
  obtain ⟨hskip, hname⟩ := Field.options_eq_ok h
  rw [extend, h, ← hskip, ← hname]
  rfl

theorem extend_eq_ok_iff :
    t.extend f = .ok t'
      ↔ (∃ o, f.options = .ok o)
        ∧ (f.skipped = true ∧ t' = t
          ∨ f.skipped = false ∧ f.propertyName ∉ t.names
            ∧ t' = ⟨t.names ++ [f.propertyName], t.fields ++ [f.name]⟩) := by
  cases ho : f.options with
  | error fault => simp [extend, ho, bind, Except.bind]
  | ok o =>
    rw [extend_of_options ho]
    cases hs : f.skipped with
    | true => simp [eq_comm]
    | false => by_cases ht : f.propertyName ∈ t.names <;> simp [ht, eq_comm]

/-- The lists of a table are of one length, so each name has a field at its side. -/
def Aligned (t : PropertyTable) : Prop :=
  t.names.length = t.fields.length

theorem Aligned.extend (ht : t.Aligned) (h : t.extend f = .ok t') : t'.Aligned := by
  obtain ⟨-, ⟨-, rfl⟩ | ⟨-, -, rfl⟩⟩ := extend_eq_ok_iff.1 h
  · exact ht
  · simpa [Aligned] using ht

theorem Aligned.foldlM (ht : t.Aligned) (h : fs.foldlM PropertyTable.extend t = .ok t') :
    t'.Aligned := by
  induction fs generalizing t with
  | nil =>
    cases h
    exact ht
  | cons f fs ih =>
    rw [List.foldlM_cons, Except.bind_eq_ok_iff] at h
    obtain ⟨t₁, hf, hfs⟩ := h
    exact ih (ht.extend hf) hfs

theorem Aligned.map_property_entries (ht : t.Aligned) : t.entries.map (·.property) = t.names := by
  rw [entries, List.map_map]
  exact List.map_fst_zip (Nat.le_of_eq ht)

theorem Aligned.isSome_fieldOf?_iff (ht : t.Aligned) {property : String} :
    (t.fieldOf? property).isSome = true ↔ property ∈ t.names := by
  simp [fieldOf?, ← ht.map_property_entries]

/-- What fields make of a table. The invariant is that their names differ from each other and from
those that are taken. -/
theorem foldlM_extend_eq_ok_iff :
    fs.foldlM extend t = .ok t'
      ↔ (∀ f ∈ fs, ∃ o, f.options = .ok o)
        ∧ t' = ⟨t.names ++ Field.propertyNames fs,
            t.fields ++ (fs.filter (!·.skipped)).map (·.name)⟩
        ∧ (Field.propertyNames fs).Nodup ∧ (Field.propertyNames fs).Disjoint t.names := by
  induction fs generalizing t with
  | nil => simp [Field.propertyNames, pure, Except.pure, eq_comm]
  | cons f fs ih =>
    simp only [List.foldlM_cons, Except.bind_eq_ok_iff, extend_eq_ok_iff, ih, List.forall_mem_cons,
      Field.propertyNames_cons]
    cases hs : f.skipped with
    | true => simp [hs, and_assoc]
    | false =>
      -- The name of the field moves from those of the fields to those that are taken.
      have hmove : f.propertyName ∉ t.names ∧ (Field.propertyNames fs).Nodup
            ∧ (Field.propertyNames fs).Disjoint (t.names ++ [f.propertyName])
          ↔ (f.propertyName :: Field.propertyNames fs).Nodup
            ∧ (f.propertyName :: Field.propertyNames fs).Disjoint t.names := by
        rw [List.disjoint_append_right, List.disjoint_singleton, List.nodup_cons,
          List.disjoint_cons_left]
        tauto
      constructor
      · rintro ⟨_, ⟨ho, ⟨⟨⟩, -⟩ | ⟨-, hnew, rfl⟩⟩, hos, rfl, hnodup, hfresh⟩
        refine ⟨⟨ho, hos⟩, ?_, hmove.1 ⟨hnew, hnodup, hfresh⟩⟩
        simp [hs]
      · rintro ⟨⟨ho, hos⟩, rfl, h⟩
        obtain ⟨hnew, hnodup, hfresh⟩ := hmove.2 h
        refine ⟨_, ⟨ho, .inr ⟨rfl, hnew, rfl⟩⟩, hos, ?_, hnodup, hfresh⟩
        simp [hs]

theorem entries_eq (h : t = ⟨Field.propertyNames fs, (fs.filter (!·.skipped)).map (·.name)⟩) :
    t.entries = (fs.filter (!·.skipped)).map (·.entry) := by
  rw [h, entries, Field.propertyNames, List.zip_map', List.map_map]
  rfl

end PropertyTable

/-! ### Structures -/

/-- A field is another one without the `property` attributes. -/
structure Field.Cleared (f f' : Field τ) : Prop where
  visibility : f'.visibility = f.visibility
  name : f'.name = f.name
  type : f'.type = f.type
  attributes : f'.attributes = f.attributes.filter (·.path ≠ "property")

inductive Fields.Cleared : Fields τ → Fields τ → Prop
  | named {fields fields' : List (Field τ)} (cleared : List.Forall₂ Field.Cleared fields fields') :
    Cleared (.named fields) (.named fields')
  | unit : Cleared .unit .unit

structure Struct.Cleared (s s' : Struct τ) : Prop where
  visibility : s'.visibility = s.visibility
  name : s'.name = s.name
  attributes : s'.attributes = s.attributes
  parameters : s'.parameters = s.parameters
  condition : s'.condition = s.condition
  fields : Fields.Cleared s.fields s'.fields

theorem Field.cleared_stripped (f : Field τ) : f.Cleared f.stripped where
  visibility := rfl
  name := rfl
  type := rfl
  attributes := List.filter_congr fun a _ => by
    rw [Attribute.isProperty, beq_eq_decide, decide_not]

namespace Struct
variable {s : Struct τ} {x : Expansion τ} {t : PropertyTable}

def namedFields (s : Struct τ) : List (Field τ) :=
  match s.fields with
  | .named fields => fields
  | .unit | .tuple _ => []

theorem propertyTable_eq (h : ∀ types, s.fields ≠ .tuple types) :
    s.propertyTable = s.namedFields.foldlM PropertyTable.extend {} := by
  unfold propertyTable namedFields
  cases hf : s.fields with
  | named fields => rfl
  | unit => rfl
  | tuple types => exact absurd hf (h types)

theorem propertyTable_eq_ok_iff :
    s.propertyTable = .ok t
      ↔ (∀ types, s.fields ≠ .tuple types)
        ∧ (∀ f ∈ s.namedFields, ∃ o, f.options = .ok o)
        ∧ t = ⟨Field.propertyNames s.namedFields,
            (s.namedFields.filter (!·.skipped)).map (·.name)⟩
        ∧ (Field.propertyNames s.namedFields).Nodup := by
  by_cases htuple : ∃ types, s.fields = .tuple types
  · obtain ⟨types, htypes⟩ := htuple
    simp [propertyTable, htypes]
  · have h : ∀ types, s.fields ≠ .tuple types := fun types htypes => htuple ⟨types, htypes⟩
    rw [propertyTable_eq h, PropertyTable.foldlM_extend_eq_ok_iff]
    simp [h]

theorem aligned_of_propertyTable (h : s.propertyTable = .ok t) : t.Aligned := by
  have haligned : ({} : PropertyTable).Aligned := rfl
  rw [propertyTable_eq (propertyTable_eq_ok_iff.1 h).1] at h
  exact haligned.foldlM h

theorem withProperties_eq_ok_iff :
    s.withProperties = .ok x
      ↔ ∃ t, s.propertyTable = .ok t ∧ x = { struct := s.stripped, table := t } := by
  rw [withProperties, Except.bind_eq_ok_iff]
  simp [pure, Except.pure, eq_comm]

theorem cleared_stripped (h : ∀ types, s.fields ≠ .tuple types) : s.Cleared s.stripped := by
  unfold stripped
  cases hf : s.fields with
  | named fields =>
    refine ⟨rfl, rfl, rfl, rfl, rfl, ?_⟩
    rw [hf]
    exact .named (List.forall₂_map_right_iff.2 (List.forall₂_same.2 fun f _ => f.cleared_stripped))
  | unit => exact ⟨rfl, rfl, rfl, rfl, rfl, by rw [hf]; exact .unit⟩
  | tuple types => exact absurd hf (h types)

theorem cleared_of_withProperties (h : s.withProperties = .ok x) : s.Cleared x.struct := by
  obtain ⟨t, ht, rfl⟩ := withProperties_eq_ok_iff.1 h
  exact cleared_stripped (propertyTable_eq_ok_iff.1 ht).1

/-- A record is an instance of a structure that is the type with the given identity: it is of that
type, and has the fields of the structure. -/
structure IsInstance (s : Struct τ) (id : TypeId) (r : Record) : Prop where
  type : r.type = id
  fields : r.fields.map (·.1) = s.namedFields.map (·.name)

theorem IsInstance.exists_lookup {id : TypeId} {r : Record} {f : Field τ} (h : s.IsInstance id r)
    (hf : f ∈ s.namedFields) : ∃ v, r.fields.lookup f.name = some v := by
  have hname : f.name ∈ r.fields.map (·.1) := by
    rw [h.fields]
    exact List.mem_map_of_mem hf
  obtain ⟨entry, hentry, hkey⟩ := List.mem_map.1 hname
  exact Option.isSome_iff_exists.1
    (List.lookup_isSome_iff.2 ⟨entry, hentry, beq_iff_eq.2 hkey.symm⟩)

end Struct

namespace PropertyTable
variable {t : PropertyTable} {fields : List (Field τ)} {id : TypeId} {typeName n : String}
  {p : Property}

theorem exists_field_of_property? (h : t.entries = fields.map (·.entry))
    (hp : (t.recordType id typeName).property? n = some p) :
    ∃ f ∈ fields, f.propertyName = n ∧ p = property id typeName n f.name := by
  obtain ⟨field, hfield, rfl⟩ := property?_recordType.1 hp
  obtain ⟨entry, hentry, rfl⟩ := Option.map_eq_some_iff.1 hfield
  have hname : entry.property = n := by simpa using List.find?_some hentry
  have hmem := List.mem_of_find?_eq_some hentry
  rw [h] at hmem
  obtain ⟨f, hf, rfl⟩ := List.mem_map.1 hmem
  exact ⟨f, hf, hname, rfl⟩

end PropertyTable

/-- A property of the given name was made from a field of a structure that is the type `ref`: it
reads what this field holds from every instance, and nothing from records of other types. -/
structure Property.MadeFrom (p : Property) (f : Field τ) (s : Struct τ) (ref : TypeRef) : Prop where
  declared : f ∈ s.namedFields
  kept : f.skipped = false
  name : p.name = f.propertyName
  owner : p.owner = ref.name
  ownerId : p.ownerId = ref.id
  reads : ∀ r, s.IsInstance ref.id r →
    ∃ v, r.fields.lookup f.name = some v ∧ p.value? r = some v.routingValue
  foreign : ∀ r, r.type ≠ ref.id → p.value? r = none

/-- A record type is that of a structure which is the type `ref`. -/
structure RecordType.Presents (t : RecordType) (s : Struct τ) (ref : TypeRef) : Prop where
  names : t.propertyNames = (s.namedFields.filter (!·.skipped)).map (·.propertyName)
  nodup : t.propertyNames.Nodup
  answers : ∀ n, (t.property? n).isSome = true ↔ n ∈ t.propertyNames
  made : ∀ n p, t.property? n = some p → p.name = n ∧ ∃ f, p.MadeFrom f s ref

/-- The table of a structure lists the fields that are not left out, in order, each under its name
as a property. The properties belong to the type that is written as the structure with its
parameters, and read the fields that they were made from. -/
theorem property_table_is_faithful {s : Struct τ} {x : Expansion τ} (h : s.withProperties = .ok x)
    (meaning : List Source.Token → TypeRef) :
    (x.recordType meaning).Presents s (meaning (s.parameters.applied s.name))
    ∧ s.Cleared x.struct := by
  have hcleared := Struct.cleared_of_withProperties h
  obtain ⟨t, ht, rfl⟩ := Struct.withProperties_eq_ok_iff.1 h
  obtain ⟨-, -, hlists, hnodup⟩ := Struct.propertyTable_eq_ok_iff.1 ht
  have hself : Expansion.recordType { struct := s.stripped, table := t } meaning
      = t.recordType (meaning (s.parameters.applied s.name)).id
          (meaning (s.parameters.applied s.name)).name := by
    rw [Expansion.recordType, Expansion.access, Struct.facet, hcleared.parameters, hcleared.name]
  have haligned := Struct.aligned_of_propertyTable ht
  rw [hself]
  generalize meaning (s.parameters.applied s.name) = ref
  refine ⟨⟨?_, ?_, fun n => ?_, fun n p hp => ?_⟩, hcleared⟩
  · rw [hlists]
    rfl
  · rwa [hlists]
  · show ((t.fieldOf? n).map _).isSome = true ↔ n ∈ t.names
    rw [Option.isSome_map, haligned.isSome_fieldOf?_iff]
  · obtain ⟨f, hf, rfl, rfl⟩ :=
      PropertyTable.exists_field_of_property? (PropertyTable.entries_eq hlists) hp
    obtain ⟨hf, hskipped⟩ := List.mem_filter.1 hf
    refine ⟨rfl, f, hf, by simpa using hskipped, rfl, rfl, rfl, fun r hr => ?_, fun r hr => ?_⟩
    · obtain ⟨v, hv⟩ := hr.exists_lookup hf
      exact ⟨v, hv, PropertyTable.value?_property hr.type hv⟩
    · exact Property.value?_eq_none_iff.2 hr

namespace Shop

/-- A seat with an attribute of its own, a label with another name, notes that are left out and a
word that is a keyword as the name of a field. -/
def seat : Struct (List Source.Token) where
  visibility := [.word "pub"]
  name := "Seat"
  attributes := [{ path := "derive", argument := .group .round [.word "Debug"] }]
  parameters :=
    ⟨[⟨{ role := .lifetime, name := [.lifetime "'a"] }, true⟩,
      ⟨{ role := .type, name := [.word "T"], bound := [.word "Clone"], default := [.word "u8"] },
        false⟩]⟩
  condition := some [.word "T", .mark ':', .word "Copy"]
  fields := .named
    [{ visibility := [.word "pub"], name := "seat_id", type := [.word "u32"] },
      { name := "label"
        type := [.mark '&', .lifetime "'a", .word "str"]
        attributes := [propertyOptions (assigned "rename" "seatLabel")] },
      { name := "notes"
        type := [.word "Option", .mark '<', .word "T", .mark '>']
        attributes :=
          [propertyOptions ([.word "skip", .mark ','] ++ assigned "rename" "seat_id"),
            { path := "doc", argument := .equals [.quoted "internal" (Quoted.ofText "internal")] },
            propertyOptions [.word "skip"]] },
      { name := "r#type", type := [.word "String"] }]

def row : Struct (List Source.Token) where
  name := "Row"
  fields := .named [{ name := "letter", type := [.word "char"] }]

/-- The types that are written as the seat with its parameters and as the row, and another one. -/
def seatMeaning (written : List Source.Token) : TypeRef :=
  if Source.Token.textOf written = "Seat<'a,T>" then ⟨⟨0⟩, "shop::Seat<u8>"⟩
  else if Source.Token.textOf written = "Row" then ⟨⟨1⟩, "shop::Row"⟩
  else ⟨⟨2⟩, "shop::Hall"⟩

def seatA7 (id : TypeId) : Record where
  type := id
  fields :=
    [("seat_id", ⟨.int .u32, ⟨7, by decide⟩⟩), ("label", ⟨.held .borrowed .text, "A7"⟩),
      ("notes", ⟨.optional (.int .u8), none⟩), ("r#type", ⟨.text, "window"⟩)]

end Shop

open Shop in
/-- The label of a seat has another name, under which it is read from a seat and not from a row. Of
the attributes of the fields one is left. A row has no parameters, and owns its letter. -/
theorem seat_label_is_read_under_other_name :
    (∃ x, seat.withProperties = .ok x
      ∧ (x.recordType seatMeaning).propertyNames = ["seat_id", "seatLabel", "r#type"]
      ∧ (∃ p, (x.recordType seatMeaning).property? "seatLabel" = some p
        ∧ p.owner = "shop::Seat<u8>"
        ∧ p.value? (seatA7 ⟨0⟩) = some (.text "A7") ∧ p.value? (seatA7 ⟨1⟩) = none)
      ∧ (x.recordType seatMeaning).property? "label" = none
      ∧ seat.Cleared x.struct
      ∧ x.struct.namedFields.map (·.attributes)
        = [[], [],
          [{ path := "doc", argument := .equals [.quoted "internal" "\"internal\""] }], []])
    ∧ ∃ x, row.withProperties = .ok x
      ∧ ∃ p, (x.recordType seatMeaning).property? "letter" = some p ∧ p.owner = "shop::Row"
        ∧ p.value? ⟨⟨1⟩, [("letter", ⟨.char, 'C'⟩)]⟩ = some (.text "C") := by
  obtain ⟨x, hx⟩ : ∃ x, seat.withProperties = .ok x := ⟨_, rfl⟩
  obtain ⟨x', hx'⟩ : ∃ x, row.withProperties = .ok x := ⟨_, rfl⟩
  have hself : seatMeaning (seat.parameters.applied seat.name) = ⟨⟨0⟩, "shop::Seat<u8>"⟩ := by
    decide +kernel
  have hself' : seatMeaning (row.parameters.applied row.name) = ⟨⟨1⟩, "shop::Row"⟩ := by
    decide +kernel
  obtain ⟨htype, hcleared⟩ := property_table_is_faithful hx seatMeaning
  obtain ⟨htype', -⟩ := property_table_is_faithful hx' seatMeaning
  rw [hself] at htype
  rw [hself'] at htype'
  have hnames : (x.recordType seatMeaning).propertyNames = ["seat_id", "seatLabel", "r#type"] := by
    rw [htype.names]
    decide +kernel
  refine ⟨⟨x, hx, hnames, ?_, ?_, hcleared, ?_⟩, x', hx', ?_⟩
  · obtain ⟨p, hp⟩ := Option.isSome_iff_exists.1
      ((htype.answers "seatLabel").2 (by rw [hnames]; decide))
    obtain ⟨hname, f, hf⟩ := htype.made _ p hp
    have hlabel : ∀ f ∈ seat.namedFields, f.propertyName = "seatLabel" → f.name = "label" := by
      decide +kernel
    have hread := hf.reads (seatA7 ⟨0⟩) ⟨rfl, rfl⟩
    rw [hlabel f hf.declared (hf.name.symm.trans hname)] at hread
    obtain ⟨v, hv, hvalue⟩ := hread
    cases hv
    exact ⟨p, hp, hf.owner, hvalue, hf.foreign _ (by decide)⟩
  · rw [← Option.not_isSome_iff_eq_none, htype.answers, hnames]
    decide
  · cases hx
    decide +kernel
  · obtain ⟨p, hp⟩ := Option.isSome_iff_exists.1
      ((htype'.answers "letter").2 (by rw [htype'.names]; decide +kernel))
    obtain ⟨-, f, hf⟩ := htype'.made _ p hp
    obtain rfl := List.mem_singleton.1 hf.declared
    obtain ⟨v, hv, hvalue⟩ := hf.reads ⟨⟨1⟩, [("letter", ⟨.char, 'C'⟩)]⟩ ⟨rfl, rfl⟩
    cases hv
    exact ⟨p, hp, hf.owner, hvalue⟩

end AggregateRouting
