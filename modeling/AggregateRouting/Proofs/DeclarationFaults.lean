import AggregateRouting.Proofs.AttributeGroups
import AggregateRouting.Proofs.EntryLists
import AggregateRouting.Proofs.PropertyTables

/-! # Faults of declarations

The `property` attributes of a field are read as one row of entries (`Field.options_eq_foldlM`), and
the first of these that is no option, or gives a name again, is the fault of the field
(`Field.options_eq_error_iff`). Fields are judged one after the other, each for its attributes and
then for its name (`PropertyTable.extend_eq_error_iff`). -/

namespace List

theorem exists_cons_eq_append_cons {α : Type} {P : List α → α → Prop} {a : α} {l : List α} :
    (∃ before b after, a :: l = before ++ b :: after ∧ P before b)
      ↔ P [] a ∨ ∃ before b after, l = before ++ b :: after ∧ P (a :: before) b := by
  constructor
  · rintro ⟨before, b, after, hl, h⟩
    rcases before with _ | ⟨a', before⟩
    · obtain ⟨rfl, rfl⟩ := List.cons.inj hl
      exact .inl h
    · obtain ⟨rfl, rfl⟩ := List.cons.inj hl
      exact .inr ⟨before, b, after, rfl, h⟩
  · rintro (h | ⟨before, b, after, rfl, h⟩)
    · exact ⟨[], a, l, rfl, h⟩
    · exact ⟨a :: before, b, after, rfl, h⟩

end List

namespace Except
variable {ε α β : Type}

theorem foldlM_eq_error_iff {f : β → α → Except ε β} {b : β} {l : List α} {e : ε} :
    l.foldlM f b = .error e
      ↔ ∃ before a after, l = before ++ a :: after
        ∧ ∃ b', before.foldlM f b = .ok b' ∧ f b' a = .error e := by
  induction l generalizing b with
  | nil => simp [pure, Except.pure]
  | cons a l ih =>
    rw [List.foldlM_cons, bind_eq_error_iff, List.exists_cons_eq_append_cons]
    simp only [ih, List.foldlM_nil, List.foldlM_cons, bind_eq_ok_iff]
    constructor
    · rintro (h | ⟨b₁, hb₁, before, a', after, rfl, b', hbefore, h⟩)
      · exact .inl ⟨b, rfl, h⟩
      · exact .inr ⟨before, a', after, rfl, b', ⟨b₁, hb₁, hbefore⟩, h⟩
    · rintro (⟨_, ⟨⟩, h⟩ | ⟨before, a', after, rfl, b', ⟨b₁, hb₁, hbefore⟩, h⟩)
      · exact .inl h
      · exact .inr ⟨b₁, hb₁, before, a', after, rfl, b', hbefore, h⟩

end Except

namespace AggregateRouting
variable {τ : Type} {e : Entry} {es : List Entry} {fault : DeclarationFault}

/-! ### Entries -/

namespace Entry

inductive TextFault (e : Entry) : DeclarationFault → Prop
  | noEquals (h : e.value = none) : TextFault e .expectedEquals
  | noText (h : e.value = some .missing) : TextFault e .missingText
  | otherValue (h : e.value = some .other) : TextFault e .expectedText
  | more {text : String} (h : e.value = some (.text text)) (more : e.more = true) :
    TextFault e .expectedComma

theorem text_eq_error_iff : e.text = .error fault ↔ e.TextFault fault := by
  unfold text
  constructor
  · intro h
    split at h
    case h_1 hvalue => cases h; exact .noEquals hvalue
    case h_2 hvalue => cases h; exact .noText hvalue
    case h_3 hvalue => cases h; exact .otherValue hvalue
    case h_4 hvalue =>
      split at h
      · next hmore => cases h; exact .more hvalue hmore
      · cases h
  · rintro (hvalue | hvalue | hvalue | ⟨hvalue, hmore⟩)
    all_goals simp_all

def IsOption (e : Entry) : Prop :=
  e = .skip ∨ ∃ name, e = .rename name

theorem IsOption.isPlain (h : e.IsOption) : e.IsPlain := by
  rcases h with rfl | ⟨name, rfl⟩
  · exact .alone "skip"
  · exact .given "rename" name

/-- Whether entries are options of which at most one gives a name. -/
structure AreOptions (es : List Entry) : Prop where
  known : ∀ e ∈ es, e.IsOption
  once : (es.filterMap (·.rename?)).length ≤ 1

/-- What is wrong with an entry of a `property` attribute, where `renamed` says whether an entry
before it gives a name. -/
inductive OptionFault (renamed : Bool) (e : Entry) : DeclarationFault → Prop
  | literal (h : e.key = .literal) : OptionFault renamed e .literalKey
  | other (h : e.key = .other) : OptionFault renamed e .unexpectedKey
  | lone (h : e.key = .lone) : OptionFault renamed e .missingKey
  | unfinished {first? : Option String} {atEnd : Bool} (h : e.key = .unfinished first? atEnd) :
    OptionFault renamed e (.unfinishedKey atEnd)
  | path {first? : Option String} (h : e.key = .path first?) :
    OptionFault renamed e .unknownPropertyKey
  | unknown {word : String} (h : e.key = .name word) (hskip : word ≠ "skip")
    (hrename : word ≠ "rename") : OptionFault renamed e .unknownPropertyKey
  | skipMore (h : e.key = .name "skip") (more : e.value.isSome = true ∨ e.more = true) :
    OptionFault renamed e .expectedComma
  | again (h : e.key = .name "rename") (given : renamed = true) :
    OptionFault renamed e (.repeatedKey "rename")
  | text {fault : DeclarationFault} (h : e.key = .name "rename") (new : renamed = false)
    (text : e.TextFault fault) : OptionFault renamed e fault

end Entry

namespace FieldOptions
variable {o o' : FieldOptions}

theorem read_eq_error_iff : o.read e = .error fault ↔ e.OptionFault o.rename.isSome fault := by
  unfold read
  constructor
  · intro h
    split at h
    case h_1 hk => cases h; exact .literal hk
    case h_2 hk => cases h; exact .other hk
    case h_3 hk => cases h; exact .lone hk
    case h_4 hk => cases h; exact .unfinished hk
    case h_5 hk =>
      split at h
      · next hmore => cases h; exact .skipMore hk (Bool.or_eq_true_iff.1 hmore)
      · cases h
    case h_6 hk =>
      split at h
      · next hname => cases h; exact .again hk (by rw [hname]; rfl)
      · next hname =>
        rw [Except.bind_eq_error_iff] at h
        rcases h with h | ⟨text, -, h⟩
        · exact .text hk (by rw [hname]; rfl) (Entry.text_eq_error_iff.1 h)
        · cases h
    case h_7 hskip hrename hk => cases h; exact .unknown hk hskip hrename
    case h_8 hk => cases h; exact .path hk
  · intro h
    cases h with
    | literal hk | other hk | lone hk | unfinished hk | path hk => simp [hk]
    | unknown hk hskip hrename => simp [hk]
    | skipMore hk hmore => simp [hk, hmore]
    | again hk hgiven =>
      obtain ⟨name, hname⟩ := Option.isSome_iff_exists.1 hgiven
      simp [hk, hname]
    | text hk hnew ht =>
      have hname : o.rename = none := by simpa using hnew
      simp [hk, hname, Entry.text_eq_error_iff.2 ht, bind, Except.bind]

theorem exists_foldlM_read_eq_ok_iff :
    (∃ o', es.foldlM read o = .ok o')
      ↔ (∀ e ∈ es, e.IsOption)
        ∧ o.rename.toList.length + (es.filterMap (·.rename?)).length ≤ 1 := by
  induction es generalizing o with
  | nil =>
    simp [pure, Except.pure]
  | cons e es ih =>
    simp only [List.foldlM_cons, Except.bind_eq_ok_iff, List.forall_mem_cons]
    rw [exists_comm]
    simp only [exists_and_left, ih]
    constructor
    · rintro ⟨o₁, he, hes, hone⟩
      rcases read_eq_ok_iff.1 he with ⟨rfl, rfl⟩ | ⟨name, rfl, hnone, rfl⟩
      · exact ⟨⟨.inl rfl, hes⟩, hone⟩
      · refine ⟨⟨.inr ⟨name, rfl⟩, hes⟩, ?_⟩
        simpa [hnone, Entry.rename, Entry.rename?, Nat.add_comm] using hone
    · rintro ⟨⟨rfl | ⟨name, rfl⟩, hes⟩, hone⟩
      · exact ⟨_, read_eq_ok_iff.2 (.inl ⟨rfl, rfl⟩), hes, hone⟩
      · have hcons : ((Entry.rename name :: es).filterMap (·.rename?)).length
            = (es.filterMap (·.rename?)).length + 1 := rfl
        have hnone : o.rename = none := by
          cases hname : o.rename with
          | none => rfl
          | some other =>
            rw [hcons, hname, Option.toList_some, List.length_singleton] at hone
            omega
        refine ⟨_, read_eq_ok_iff.2 (.inr ⟨name, rfl, hnone, rfl⟩), hes, ?_⟩
        rw [hcons] at hone
        simp only [Option.toList_some, List.length_singleton]
        omega

end FieldOptions

/-! ### Fields -/

/-- What is read of an attribute, in order: its entries, or that it has no list of them. -/
def Attribute.readings (a : Attribute) : List (Except DeclarationFault Entry) :=
  match a.argument with
  | .nothing => [.error .bareAttribute]
  | .equals _ => [.error .expectedParentheses]
  | .group _ ts => (Source.entries ts).map .ok

namespace Field
variable {f : Field τ} {fs : List (Field τ)} {taken : List String}

def readings (f : Field τ) : List (Except DeclarationFault Entry) :=
  (f.attributes.filter (·.isProperty)).flatMap (·.readings)

def readNext (o : FieldOptions) (r : Except DeclarationFault Entry) :
    Except DeclarationFault FieldOptions :=
  r >>= o.read

theorem readAttribute_eq_foldlM (o : FieldOptions) (a : Attribute) :
    o.readAttribute a = a.readings.foldlM readNext o := by
  unfold FieldOptions.readAttribute Attribute.readings
  cases a.argument with
  | nothing | equals value => rfl
  | group b ts => rw [List.foldlM_map]; rfl

theorem options_eq_foldlM : f.options = f.readings.foldlM readNext {} := by
  have hall : ∀ (as : List Attribute) (o : FieldOptions),
      as.foldlM FieldOptions.readAttribute o = (as.flatMap (·.readings)).foldlM readNext o := by
    intro as
    induction as with
    | nil => exact fun o => rfl
    | cons a as ih =>
      intro o
      simp only [List.foldlM_cons, List.flatMap_cons, List.foldlM_append, ih,
        readAttribute_eq_foldlM]
  exact hall _ _

theorem foldlM_readNext_eq_ok_iff {rs : List (Except DeclarationFault Entry)}
    {o o' : FieldOptions} :
    rs.foldlM readNext o = .ok o'
      ↔ ∃ es : List Entry, rs = es.map .ok ∧ es.foldlM FieldOptions.read o = .ok o' := by
  induction rs generalizing o with
  | nil =>
    constructor
    · exact fun h => ⟨[], rfl, h⟩
    · rintro ⟨es, hes, h⟩
      obtain rfl := List.map_eq_nil_iff.1 hes.symm
      exact h
  | cons r rs ih =>
    simp only [List.foldlM_cons, Except.bind_eq_ok_iff, ih]
    constructor
    · rintro ⟨o₁, hr, es, rfl, h⟩
      rw [readNext, Except.bind_eq_ok_iff] at hr
      obtain ⟨e, rfl, he⟩ := hr
      refine ⟨e :: es, rfl, ?_⟩
      rw [List.foldlM_cons, Except.bind_eq_ok_iff]
      exact ⟨o₁, he, h⟩
    · rintro ⟨es, hes, h⟩
      obtain ⟨e, es, rfl, rfl, rfl⟩ := List.map_eq_cons_iff.1 hes.symm
      rw [List.foldlM_cons, Except.bind_eq_ok_iff] at h
      obtain ⟨o₁, he, h⟩ := h
      exact ⟨o₁, he, es, rfl, h⟩

/-- Each `property` attribute of a field is a list of options, and together they give the field at
most one name. -/
structure WellAnnotated (f : Field τ) : Prop where
  options : ∀ a ∈ f.attributes, a.isProperty = true →
    ∃ b ts, a.argument = .group b ts ∧ ∀ e ∈ Source.entries ts, e.IsOption
  once : (f.entries.filterMap (·.rename?)).length ≤ 1

/-- What is wrong with something that is read, after entries that do or do not give a name. -/
inductive ReadingFault (renamed : Bool) : Except DeclarationFault Entry → DeclarationFault → Prop
  | noList (fault : DeclarationFault) : ReadingFault renamed (.error fault) fault
  | entry {e : Entry} {fault : DeclarationFault} (bad : e.OptionFault renamed fault) :
    ReadingFault renamed (.ok e) fault

/-- What is wrong with the first thing read of the attributes of a field that is not accepted after
what was read before it. -/
inductive AttributeFault (f : Field τ) : DeclarationFault → Prop
  | first {before : List Entry} {r : Except DeclarationFault Entry}
    {after : List (Except DeclarationFault Entry)} {fault : DeclarationFault}
    (row : f.readings = before.map .ok ++ r :: after) (accepted : Entry.AreOptions before)
    (bad : ReadingFault (before.any (·.rename?.isSome)) r fault) : AttributeFault f fault

theorem exists_foldlM_read_eq_ok_iff :
    (∃ o, es.foldlM FieldOptions.read {} = .ok o) ↔ Entry.AreOptions es := by
  rw [FieldOptions.exists_foldlM_read_eq_ok_iff, Option.toList_none, List.length_nil, Nat.zero_add]
  exact ⟨fun h => ⟨h.1, h.2⟩, fun h => ⟨h.known, h.once⟩⟩

theorem readNext_eq_error_iff {o : FieldOptions} {r : Except DeclarationFault Entry} :
    readNext o r = .error fault ↔ ReadingFault o.rename.isSome r fault := by
  cases r with
  | error fault' =>
    constructor
    · rintro ⟨⟩
      exact .noList _
    · rintro ⟨⟩
      rfl
  | ok e =>
    rw [show readNext o (.ok e) = o.read e from rfl, FieldOptions.read_eq_error_iff]
    constructor
    · exact .entry
    · rintro (_ | h)
      exact h

theorem options_eq_error_iff : f.options = .error fault ↔ f.AttributeFault fault := by
  rw [options_eq_foldlM, Except.foldlM_eq_error_iff]
  simp only [foldlM_readNext_eq_ok_iff, readNext_eq_error_iff]
  have hrenamed : ∀ {es : List Entry} {o : FieldOptions},
      es.foldlM FieldOptions.read {} = .ok o → o.rename.isSome = es.any (·.rename?.isSome) := by
    intro es o h
    rw [(FieldOptions.foldlM_read_eq_ok h).2, Option.none_or, List.isSome_findSome?]
  constructor
  · rintro ⟨_, r, after, hrow, o, ⟨before, rfl, ho⟩, hbad⟩
    rw [hrenamed ho] at hbad
    exact .first hrow (exists_foldlM_read_eq_ok_iff.1 ⟨o, ho⟩) hbad
  · rintro ⟨hrow, haccepted, hbad⟩
    obtain ⟨o, ho⟩ := exists_foldlM_read_eq_ok_iff.2 haccepted
    rw [← hrenamed ho] at hbad
    exact ⟨_, _, _, hrow, o, ⟨_, rfl, ho⟩, hbad⟩

theorem readings_eq_map_ok_iff :
    f.readings = es.map .ok
      ↔ (∀ a ∈ f.attributes, a.isProperty = true → ∃ b ts, a.argument = .group b ts)
        ∧ es = f.entries := by
  have hlists : (∀ a ∈ f.attributes, a.isProperty = true → ∃ b ts, a.argument = .group b ts) →
      f.readings = f.entries.map .ok := by
    intro h
    rw [readings, entries, List.map_flatMap]
    refine List.flatMap_congr fun a ha => ?_
    obtain ⟨ha, hproperty⟩ := List.mem_filter.1 ha
    obtain ⟨b, ts, hgroup⟩ := h a ha hproperty
    rw [Attribute.readings, Attribute.entries, hgroup]
  constructor
  · intro h
    have hall : ∀ a ∈ f.attributes, a.isProperty = true → ∃ b ts, a.argument = .group b ts := by
      intro a ha hproperty
      have hok : ∀ r ∈ a.readings, ∃ e ∈ es, Except.ok e = r := by
        intro r hr
        have hmem : r ∈ f.readings :=
          List.mem_flatMap.2 ⟨a, List.mem_filter.2 ⟨ha, hproperty⟩, hr⟩
        rw [h] at hmem
        exact List.mem_map.1 hmem
      cases hargument : a.argument with
      | group b ts => exact ⟨b, ts, rfl⟩
      | nothing | equals value => simp [Attribute.readings, hargument] at hok
    rw [hlists hall, List.map_inj_right fun _ _ => Except.ok.inj] at h
    exact ⟨hall, h.symm⟩
  · rintro ⟨hall, rfl⟩
    exact hlists hall

theorem wellAnnotated_iff :
    f.WellAnnotated ↔ ∃ es, f.readings = es.map .ok ∧ Entry.AreOptions es := by
  simp only [readings_eq_map_ok_iff, and_assoc, exists_and_left, exists_eq_left]
  have hmem : ∀ e, e ∈ f.entries ↔ ∃ a ∈ f.attributes, a.isProperty = true ∧ e ∈ a.entries := by
    intro e
    simp [entries, and_assoc]
  constructor
  · intro h
    refine ⟨fun a ha hproperty => ?_, fun e he => ?_, h.once⟩
    · obtain ⟨b, ts, hgroup, -⟩ := h.options a ha hproperty
      exact ⟨b, ts, hgroup⟩
    · obtain ⟨a, ha, hproperty, he⟩ := (hmem e).1 he
      obtain ⟨b, ts, hgroup, hknown⟩ := h.options a ha hproperty
      rw [Attribute.entries, hgroup] at he
      exact hknown e he
  · rintro ⟨hlists, hknown, hone⟩
    refine ⟨fun a ha hproperty => ?_, hone⟩
    obtain ⟨b, ts, hgroup⟩ := hlists a ha hproperty
    refine ⟨b, ts, hgroup, fun e he => hknown e ((hmem e).2 ⟨a, ha, hproperty, ?_⟩)⟩
    rw [Attribute.entries, hgroup]
    exact he

theorem exists_options_eq_ok_iff : (∃ o, f.options = .ok o) ↔ f.WellAnnotated := by
  rw [options_eq_foldlM, wellAnnotated_iff]
  simp only [foldlM_readNext_eq_ok_iff, ← exists_foldlM_read_eq_ok_iff]
  constructor
  · rintro ⟨o, es, hrow, ho⟩
    exact ⟨es, hrow, o, ho⟩
  · rintro ⟨es, hrow, o, ho⟩
    exact ⟨o, es, hrow, ho⟩

/-- What is wrong with a field, if the given names are taken: first with its attributes, and then
with its name. -/
inductive Fault (taken : List String) (f : Field τ) : DeclarationFault → Prop
  | attribute {fault : DeclarationFault} (bad : f.AttributeFault fault) : Fault taken f fault
  | clash (accepted : f.WellAnnotated) (kept : f.skipped = false) (known : f.propertyName ∈ taken) :
    Fault taken f (.duplicateProperty f.propertyName)

end Field

/-! ### Tables and structures -/

namespace PropertyTable
variable {t : PropertyTable} {f : Field τ} {fs : List (Field τ)}

theorem extend_eq_error_iff : t.extend f = .error fault ↔ f.Fault t.names fault := by
  cases ho : f.options with
  | error fault' =>
    have hbad : f.Fault t.names fault ↔ fault' = fault := by
      constructor
      · rintro (hbad | ⟨haccepted, -, -⟩)
        · rw [Field.options_eq_error_iff.2 hbad] at ho
          exact (Except.error.inj ho).symm
        · obtain ⟨o, hok⟩ := Field.exists_options_eq_ok_iff.2 haccepted
          rw [hok] at ho
          cases ho
      · rintro rfl
        exact .attribute (Field.options_eq_error_iff.1 ho)
    rw [hbad, extend, ho]
    exact ⟨Except.error.inj, congrArg Except.error⟩
  | ok o =>
    have hclash : f.Fault t.names fault
        ↔ f.skipped = false ∧ f.propertyName ∈ t.names
          ∧ .duplicateProperty f.propertyName = fault := by
      constructor
      · rintro (hbad | ⟨-, hkept, hknown⟩)
        · rw [Field.options_eq_error_iff.2 hbad] at ho
          cases ho
        · exact ⟨hkept, hknown, rfl⟩
      · rintro ⟨hkept, hknown, rfl⟩
        exact .clash (Field.exists_options_eq_ok_iff.1 ⟨o, ho⟩) hkept hknown
    rw [hclash, extend_of_options ho]
    cases hs : f.skipped with
    | true => simp
    | false => by_cases ht : f.propertyName ∈ t.names <;> simp [ht]

/-- What the fields before one make of the empty table has their names, so the fault of fields is
that of the first one that is not accepted after those before it. -/
theorem foldlM_extend_eq_error_iff :
    fs.foldlM extend {} = .error fault
      ↔ ∃ before f after, fs = before ++ f :: after
        ∧ (∀ g ∈ before, g.WellAnnotated) ∧ (Field.propertyNames before).Nodup
        ∧ f.Fault (Field.propertyNames before) fault := by
  rw [Except.foldlM_eq_error_iff]
  simp only [extend_eq_error_iff, foldlM_extend_eq_ok_iff, Field.exists_options_eq_ok_iff]
  constructor
  · rintro ⟨before, f, after, rfl, t, ⟨hok, rfl, hnodup, -⟩, hbad⟩
    exact ⟨before, f, after, rfl, hok, hnodup, hbad⟩
  · rintro ⟨before, f, after, rfl, hok, hnodup, hbad⟩
    exact ⟨before, f, after, rfl, _, ⟨hok, rfl, hnodup, List.disjoint_nil_right _⟩, hbad⟩

end PropertyTable

namespace Struct
variable {s : Struct τ}

theorem propertyTable_eq_error_iff :
    s.propertyTable = .error fault
      ↔ (∃ types, s.fields = .tuple types) ∧ fault = .unnamedFields
        ∨ s.namedFields.foldlM PropertyTable.extend {} = .error fault := by
  unfold propertyTable namedFields
  cases s.fields with
  | named fields => simp
  | unit => simp [pure, Except.pure]
  | tuple types => simp [pure, Except.pure, eq_comm]

theorem exists_propertyTable_eq_ok_iff :
    (∃ t, s.propertyTable = .ok t)
      ↔ (∀ types, s.fields ≠ .tuple types) ∧ (∀ f ∈ s.namedFields, f.WellAnnotated)
        ∧ (Field.propertyNames s.namedFields).Nodup := by
  simp only [propertyTable_eq_ok_iff, Field.exists_options_eq_ok_iff]
  constructor
  · rintro ⟨t, htuple, hok, rfl, hnodup⟩
    exact ⟨htuple, hok, hnodup⟩
  · rintro ⟨htuple, hok, hnodup⟩
    exact ⟨_, htuple, hok, rfl, hnodup⟩

end Struct

/-- A structure is refused exactly if it is a tuple or one of its fields is not accepted, and the
fault is that of the first such field: that of its attributes, or else that its name as a property
is taken. An attribute may have its options in brackets of any kind. -/
theorem declarations_are_judged_in_order (s : Struct τ) :
    ((∃ fault, s.propertyTable = .error fault)
      ↔ (∃ types, s.fields = .tuple types)
        ∨ (∃ f ∈ s.namedFields, ¬ f.WellAnnotated)
        ∨ ¬ (Field.propertyNames s.namedFields).Nodup)
    ∧ (∀ fault, s.propertyTable = .error fault
      ↔ (∃ types, s.fields = .tuple types) ∧ fault = .unnamedFields
        ∨ ∃ before f after, s.namedFields = before ++ f :: after
          ∧ (∀ g ∈ before, g.WellAnnotated) ∧ (Field.propertyNames before).Nodup
          ∧ f.Fault (Field.propertyNames before) fault)
    ∧ (∀ ts es, (∀ e ∈ es, e.IsOption) → (Source.entries ts = es ↔ Source.SpellsList ts es))
    ∧ (∀ read b ts rest written left?, Source.Token.balanced [] ts = true →
      ∃ written', (Source.attributeGroup read).run
          ⟨.opening .square :: .word "property"
              :: (Written.grouped b ts ++ .closing .square :: rest), written, left?⟩
        = .ok (⟨"property", .group b ts⟩, ⟨rest, written', left?⟩)) := by
  refine ⟨?_, fun fault => ?_, ?_, ?_⟩
  · rw [← not_iff_not, ← Except.exists_eq_ok_iff, Struct.exists_propertyTable_eq_ok_iff]
    push Not
    rfl
  · rw [Struct.propertyTable_eq_error_iff, PropertyTable.foldlM_extend_eq_error_iff]
  · intro ts es hoptions
    exact Source.entries_eq_iff fun e he => (hoptions e he).isPlain
  · intro read b ts rest written left? hbalanced
    exact ⟨_, Source.attributeGroup_run read b hbalanced⟩

namespace Shop

/-- A ticket with a seat that is a place, a place that is left out, and a row that has two names,
the first of which is taken. -/
def ticket : Struct String where
  name := "Ticket"
  fields := .named
    [{ name := "seat", type := "u32", attributes := [propertyOptions (assigned "rename" "place")] },
      { name := "place"
        type := "String"
        attributes :=
          [propertyOptions ([.word "skip", .mark ','] ++ assigned "rename" "place"),
            propertyOptions [.word "skip"]] },
      { name := "row"
        type := "u32"
        attributes :=
          [propertyOptions (assigned "rename" "place"),
            propertyOptions (assigned "rename" "row")] }]

end Shop

open Shop in
/-- Of the faults of the row of a ticket the second name is reported, which is read before the first
one is compared with others. -/
theorem second_name_is_reported :
    ticket.propertyTable = .error (.repeatedKey "rename")
    ∧ Source.entries [.word "skip", .mark ',', .word "rename", .mark '=', .quoted "row" "\"row\"",
        .mark ','] = [.skip, .rename "row"]
    ∧ ∃ written, (Source.attributeGroup fun _ => Source.Reader.fail .expectedGroup).run
        ⟨[.opening .square, .word "property", .opening .curly, .word "skip", .closing .curly,
          .closing .square], [], none⟩
      = .ok (⟨"property", .group .curly [.word "skip"]⟩, ⟨[], written, none⟩) := by
  obtain ⟨-, hfault, hlist, hgroup⟩ := declarations_are_judged_in_order ticket
  have hknown : ∀ e ∈ [Entry.skip, .rename "row"], e.IsOption := by
    simp [Entry.IsOption]
  have hspelled : Source.SpellsList [.word "skip", .mark ',', .word "rename", .mark '=',
      .quoted "row" "\"row\"", .mark ','] [.skip, .rename "row"] :=
    .more (.alone "skip") false (.more (.given "rename" false "row" "\"row\"") false .nil)
  refine ⟨(hfault _).2 (.inr ?_), (hlist _ _ hknown).2 hspelled,
    hgroup _ .curly [.word "skip"] [] [] none rfl⟩
  have hbefore : ∀ g ∈ ticket.namedFields.take 2, g.WellAnnotated := by
    intro g hg
    rcases List.mem_pair.1 hg with rfl | rfl
    · exact Field.exists_options_eq_ok_iff.1 ⟨_, rfl⟩
    · exact Field.exists_options_eq_ok_iff.1 ⟨_, rfl⟩
  exact ⟨ticket.namedFields.take 2, _, [], rfl, hbefore, by decide +kernel,
    .attribute (Field.options_eq_error_iff.1 rfl)⟩

/-- A structure is accepted whose text has no parentheses at all: the list of its `property`
attribute stands in square brackets. -/
theorem list_in_square_brackets_is_accepted :
    ∃ ts s, Source.Token.ofText? "struct Crate \x7b #[property[skip]] content: u32 \x7d" = some ts
      ∧ .opening .round ∉ ts
      ∧ Source.readItem ts = .ok (.struct s)
      ∧ (∃ f ∈ s.namedFields, ∃ a ∈ f.attributes, a.isProperty = true)
      ∧ ∃ t, s.propertyTable = .ok t := by
  refine ⟨[.word "struct", .word "Crate", .opening .curly, .mark '#', .opening .square,
      .word "property", .opening .square, .word "skip", .closing .square, .closing .square,
      .word "content", .mark ':', .word "u32", .closing .curly],
    { name := "Crate"
      fields := .named
        [{ name := "content"
           type := [.word "u32"]
           attributes := [{ path := "property", argument := .group .square [.word "skip"] }] }] },
    by decide +kernel, by decide, by decide +kernel, ?_, {}, rfl⟩
  exact ⟨_, List.mem_singleton_self _, _, List.mem_singleton_self _, by decide⟩

end AggregateRouting
