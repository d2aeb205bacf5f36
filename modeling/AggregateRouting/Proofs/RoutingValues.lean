import AggregateRouting.FieldType
import AggregateRouting.Proofs.IdentifierText

/-! # What routing values tell apart

A value is converted as the one that it comes down to is, under all that is optional or through
which it is held (`FieldType.innermost?`). Two values of plain types are converted to the same
routing value only if they count as the same integer, flag or text. Main statement:
`routing_values_tell_apart`. -/

namespace AggregateRouting

/-! ### Integers -/

namespace IntType
variable {t : IntType}

theorem within_s128 (t : IntType) : s128.least ≤ t.least ∧ t.greatest ≤ s128.greatest := by
  cases t <;> decide

theorem toInt_ofInt (i : t.Carrier) : (BitVec.ofInt 128 i.val).toInt = i.val := by
  obtain ⟨hleast, hgreatest⟩ := t.within_s128
  obtain ⟨i, hlower, hupper⟩ := i
  have hlow : s128.least = -170141183460469231731687303715884105728 := by decide
  have hhigh : s128.greatest = 170141183460469231731687303715884105727 := by decide
  rw [BitVec.toInt_ofInt]
  apply Int.bmod_eq_of_le
  · show _ ≤ i
    omega
  · show i < _
    omega

end IntType

/-! ### The innermost value -/

namespace FieldType

/-- A type whose values hold nothing else. -/
def IsPlain : FieldType → Prop
  | optional _ => False
  | held _ _ => False
  | _ => True

/-- The value of a plain type that a value comes down to, unless something optional on the way to it
is missing. -/
def innermost? : (t : FieldType) → t.Carrier → Option FieldValue
  | optional _, none => none
  | optional content, some x => content.innermost? x
  | held _ content, x => content.innermost? x
  | t, x => some ⟨t, x⟩

theorem isPlain_of_innermost? {t : FieldType} {x : t.Carrier} {f : FieldValue}
    (h : t.innermost? x = some f) : f.type.IsPlain := by
  induction t with
  | optional content ih =>
    match x, h with
    | some x, h => exact ih h
  | held holder content ih => exact ih h
  | _ =>
    obtain rfl := Option.some.inj h
    trivial

theorem routingValue_eq (t : FieldType) (x : t.Carrier) :
    t.routingValue x = ((t.innermost? x).map FieldValue.routingValue).getD .absent := by
  induction t with
  | optional content ih =>
    match x with
    | none => rfl
    | some x => exact ih x
  | held holder content ih => exact ih x
  | _ => rfl

end FieldType

namespace FieldValue
variable {f g : FieldValue} {v w : RoutingValue}

def innermost? (f : FieldValue) : Option FieldValue :=
  f.type.innermost? f.content

/-- What a value of a plain type counts as: an integer as itself whatever its width, a character as
the text that has it alone, an identifier as its hyphenated form, and a routing value as itself. -/
inductive CountsAs : FieldValue → RoutingValue → Prop
  | int {t : IntType} (i : t.Carrier) : CountsAs ⟨.int t, i⟩ (.int i.val)
  | bool (b : Bool) : CountsAs ⟨.bool, b⟩ (.bool b)
  | char (c : Char) : CountsAs ⟨.char, c⟩ (.text (String.singleton c))
  | text (s : String) : CountsAs ⟨.text, s⟩ (.text s)
  | uuid {u : Uuid} {s : String} (h : u.Hyphenated s) : CountsAs ⟨.uuid, u⟩ (.text s)
  | itself (v : RoutingValue) : CountsAs ⟨.value, v⟩ v

theorem countsAs_routingValue (hf : f.type.IsPlain) : f.CountsAs f.routingValue := by
  obtain ⟨t, x⟩ := f
  cases t with
  | int t => exact .int x
  | bool => exact .bool x
  | char => exact .char x
  | text => exact .text x
  | uuid => exact .uuid (Uuid.hyphenated_iff.2 rfl)
  | value => exact .itself x
  | optional content | held holder content => cases hf

theorem CountsAs.routingValue_eq (h : f.CountsAs v) : f.routingValue = v := by
  cases h with
  | uuid h => exact congrArg RoutingValue.text (Uuid.hyphenated_iff.1 h).symm
  | _ => rfl

theorem countsAs_absent_iff : f.CountsAs .absent ↔ f = ⟨.value, RoutingValue.absent⟩ := by
  constructor
  · rintro ⟨⟩
    rfl
  · rintro rfl
    exact .itself _

/-- Values of plain types that are converted to the same routing value are the same integer, the
same flag or the same text, or are one routing value. -/
theorem routingValue_eq_iff (hf : f.type.IsPlain) (hg : g.type.IsPlain) :
    f.routingValue = g.routingValue
      ↔ (∃ i, f.CountsAs (.int i) ∧ g.CountsAs (.int i))
        ∨ (∃ b, f.CountsAs (.bool b) ∧ g.CountsAs (.bool b))
        ∨ (∃ s, f.CountsAs (.text s) ∧ g.CountsAs (.text s))
        ∨ ∃ v : RoutingValue, f = ⟨.value, v⟩ ∧ g = ⟨.value, v⟩ := by
  constructor
  · intro h
    have hf := countsAs_routingValue hf
    have hg := countsAs_routingValue hg
    rw [← h] at hg
    cases hv : f.routingValue with
    | absent =>
      rw [hv, countsAs_absent_iff] at hf hg
      exact .inr (.inr (.inr ⟨_, hf, hg⟩))
    | bool b =>
      rw [hv] at hf hg
      exact .inr (.inl ⟨b, hf, hg⟩)
    | int i =>
      rw [hv] at hf hg
      exact .inl ⟨i, hf, hg⟩
    | text s =>
      rw [hv] at hf hg
      exact .inr (.inr (.inl ⟨s, hf, hg⟩))
  · rintro (⟨i, hf, hg⟩ | ⟨b, hf, hg⟩ | ⟨s, hf, hg⟩ | ⟨v, rfl, rfl⟩)
    · rw [hf.routingValue_eq, hg.routingValue_eq]
    · rw [hf.routingValue_eq, hg.routingValue_eq]
    · rw [hf.routingValue_eq, hg.routingValue_eq]
    · rfl

/-! ### Values of any type -/

def Holds (f : FieldValue) (v : RoutingValue) : Prop :=
  ∃ g, f.innermost? = some g ∧ g.CountsAs v

theorem isPlain_of_innermost? (h : f.innermost? = some g) : g.type.IsPlain :=
  FieldType.isPlain_of_innermost? h

theorem routingValue_of_innermost? (h : f.innermost? = some g) :
    f.routingValue = g.routingValue := by
  rw [routingValue, FieldType.routingValue_eq, ← innermost?, h]
  rfl

theorem routingValue_of_innermost?_eq_none (h : f.innermost? = none) :
    f.routingValue = .absent := by
  rw [routingValue, FieldType.routingValue_eq, ← innermost?, h]
  rfl

theorem Holds.routingValue_eq (h : f.Holds v) : f.routingValue = v := by
  obtain ⟨g, hg, hv⟩ := h
  rw [routingValue_of_innermost? hg, hv.routingValue_eq]

theorem Holds.ne (hf : f.Holds v) (hg : g.Holds w) (h : v ≠ w) :
    f.routingValue ≠ g.routingValue := by
  rwa [hf.routingValue_eq, hg.routingValue_eq]

theorem innermost?_eq_none_or_holds (f : FieldValue) :
    f.innermost? = none ∨ f.Holds f.routingValue := by
  cases h : f.innermost? with
  | none => exact .inl rfl
  | some g =>
    rw [routingValue_of_innermost? h]
    exact .inr ⟨g, h, countsAs_routingValue (isPlain_of_innermost? h)⟩

theorem routingValue_eq_absent_iff :
    f.routingValue = .absent
      ↔ f.innermost? = none ∨ f.innermost? = some ⟨.value, RoutingValue.absent⟩ := by
  constructor
  · intro h
    rcases f.innermost?_eq_none_or_holds with hnone | ⟨g, hg, hv⟩
    · exact .inl hnone
    · rw [h, countsAs_absent_iff] at hv
      exact .inr (hv ▸ hg)
  · rintro (hnone | hg)
    · exact routingValue_of_innermost?_eq_none hnone
    · rw [routingValue_of_innermost? hg]
      rfl

theorem holds_of_ne_absent (h : f.routingValue = v) (hv : v ≠ .absent) : f.Holds v := by
  rcases f.innermost?_eq_none_or_holds with hnone | hholds
  · rw [routingValue_of_innermost?_eq_none hnone] at h
    exact absurd h.symm hv
  · rwa [h] at hholds

end FieldValue

/-! ### Types without collisions -/

namespace FieldType
variable {t : FieldType}

theorem injective_routingValue_of_isPlain (ht : t.IsPlain) : Function.Injective t.routingValue := by
  intro x y h
  cases t with
  | int t => exact Subtype.ext (RoutingValue.int.inj h)
  | bool => exact RoutingValue.bool.inj h
  | char => exact String.singleton_inj.1 (RoutingValue.text.inj h)
  | text => exact RoutingValue.text.inj h
  | uuid => exact Uuid.text_injective (RoutingValue.text.inj h)
  | value => exact h
  | optional content | held holder content => cases ht

theorem injective_routingValue_of_ne_absent (ht : ∀ x, t.routingValue x ≠ .absent) :
    Function.Injective t.routingValue := by
  induction t with
  | optional content => exact absurd rfl (ht none)
  | held holder content ih => exact ih ht
  | _ => exact injective_routingValue_of_isPlain trivial

theorem injective_routingValue_optional_iff :
    Function.Injective (optional t).routingValue ↔ ∀ x, t.routingValue x ≠ .absent := by
  constructor
  · intro hinj x hx
    have hnone : (some x : (optional t).Carrier) = none := hinj hx
    cases hnone
  · intro ht x y h
    match x, y with
    | none, none => rfl
    | none, some y => exact absurd h.symm (ht y)
    | some x, none => exact absurd h (ht x)
    | some x, some y => exact congrArg some (injective_routingValue_of_ne_absent ht h)

end FieldType

/-- What can be told of values from the routing values that they are converted to. Integers of all
widths keep their value in 128 bits, and a text can be displayed as anything is, but is not equal to
it. -/
structure RoutingValuesTellApart : Prop where
  absent : ∀ f : FieldValue, f.routingValue = .absent
    ↔ f.innermost? = none ∨ f.innermost? = some ⟨.value, RoutingValue.absent⟩
  innermost : ∀ f g : FieldValue, f.innermost? = some g →
    g.type.IsPlain ∧ f.routingValue = g.routingValue
  plain : ∀ f g : FieldValue, f.type.IsPlain → g.type.IsPlain →
    (f.routingValue = g.routingValue
      ↔ (∃ i, f.CountsAs (.int i) ∧ g.CountsAs (.int i))
        ∨ (∃ b, f.CountsAs (.bool b) ∧ g.CountsAs (.bool b))
        ∨ (∃ s, f.CountsAs (.text s) ∧ g.CountsAs (.text s))
        ∨ ∃ v : RoutingValue, f = ⟨.value, v⟩ ∧ g = ⟨.value, v⟩)
  int : ∀ (t : IntType) (i : t.Carrier),
    (FieldType.int t).routingValue i = .int (BitVec.ofInt 128 i.val).toInt
    ∧ (BitVec.ofInt 128 i.val).toInt = i.val
  int_ne_bool : ∀ (f g : FieldValue) (i : Int) (b : Bool), f.Holds (.int i) → g.Holds (.bool b) →
    f.routingValue ≠ g.routingValue
  int_ne_text : ∀ (f g : FieldValue) (i : Int) (s : String), f.Holds (.int i) → g.Holds (.text s) →
    f.routingValue ≠ g.routingValue
  bool_ne_text : ∀ (f g : FieldValue) (b : Bool) (s : String), f.Holds (.bool b) →
    g.Holds (.text s) → f.routingValue ≠ g.routingValue
  absent_ne : ∀ (f g : FieldValue) (i : Int) (b : Bool) (s : String), f.routingValue = .absent →
    g.Holds (.int i) ∨ g.Holds (.bool b) ∨ g.Holds (.text s) → f.routingValue ≠ g.routingValue
  display : ∀ f : FieldValue,
    (RoutingValue.text f.routingValue.display).display = f.routingValue.display
    ∧ (f.routingValue = .text f.routingValue.display ↔ ∃ s, f.Holds (.text s))
  injective : ∀ t : FieldType, t.IsPlain → Function.Injective t.routingValue
  optional : ∀ t : FieldType,
    Function.Injective (FieldType.optional t).routingValue ↔ ∀ x, t.routingValue x ≠ .absent

/-- Values of plain types are converted alike exactly if they are the same integer, flag or text or
one routing value, and no two values of one type are, unless it is optional twice. -/
theorem routing_values_tell_apart : RoutingValuesTellApart where
  absent := fun _ => FieldValue.routingValue_eq_absent_iff
  innermost := fun _ _ hg =>
    ⟨FieldValue.isPlain_of_innermost? hg, FieldValue.routingValue_of_innermost? hg⟩
  plain := fun _ _ => FieldValue.routingValue_eq_iff
  int := by
    intro t i
    rw [IntType.toInt_ofInt]
    exact ⟨rfl, rfl⟩
  int_ne_bool := fun _ _ _ _ hf hg => hf.ne hg nofun
  int_ne_text := fun _ _ _ _ hf hg => hf.ne hg nofun
  bool_ne_text := fun _ _ _ _ hf hg => hf.ne hg nofun
  absent_ne := by
    intro f g i b s hf hg
    rw [hf]
    rcases hg with hg | hg | hg
    all_goals
      rw [hg.routingValue_eq]
      exact nofun
  display := by
    intro f
    refine ⟨rfl, fun h => ⟨_, FieldValue.holds_of_ne_absent h nofun⟩, ?_⟩
    rintro ⟨s, hs⟩
    rw [hs.routingValue_eq]
    rfl
  injective := fun _ => FieldType.injective_routingValue_of_isPlain
  optional := fun _ => FieldType.injective_routingValue_optional_iff

/-- The greatest unsigned integer of a word is the same of 128 signed bits. Of two optional layers
it cannot be told which one is missing. -/
theorem nested_options_collide :
    (FieldType.int .uWord).routingValue ⟨18446744073709551615, by decide⟩
      = (FieldType.int .s128).routingValue ⟨18446744073709551615, by decide⟩
    ∧ (FieldType.int .u8).routingValue ⟨7, by decide⟩ ≠ FieldType.text.routingValue "7"
    ∧ (FieldType.optional (.held .shared .char)).routingValue (some 'a')
      = FieldType.char.routingValue 'a'
    ∧ ¬ Function.Injective (FieldType.optional (.optional .bool)).routingValue := by
  have h := routing_values_tell_apart
  refine ⟨?_, ?_, ?_, fun hinj => ?_⟩
  · have hword : FieldValue.CountsAs ⟨.int .uWord, ⟨18446744073709551615, by decide⟩⟩
        (.int 18446744073709551615) := .int _
    have hwide : FieldValue.CountsAs ⟨.int .s128, ⟨18446744073709551615, by decide⟩⟩
        (.int 18446744073709551615) := .int _
    exact (h.plain ⟨.int .uWord, _⟩ ⟨.int .s128, _⟩ trivial trivial).2 (.inl ⟨_, hword, hwide⟩)
  · exact h.int_ne_text ⟨.int .u8, ⟨7, by decide⟩⟩ ⟨.text, "7"⟩ 7 "7"
      ⟨_, rfl, .int _⟩ ⟨_, rfl, .text _⟩
  · exact (h.innermost ⟨.optional (.held .shared .char), some 'a'⟩ ⟨.char, 'a'⟩ rfl).2
  · exact (h.optional (.optional .bool)).1 hinj none rfl

end AggregateRouting
