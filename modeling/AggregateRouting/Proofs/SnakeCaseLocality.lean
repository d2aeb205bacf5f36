import AggregateRouting.Proofs.SnakeCase
import AggregateRouting.Shop.Catalog
import AggregateRouting.Strategy

/-! # Snake case is local

What a character of a name becomes depends on that character and the one before it, and on nothing
else (`SnakeCase.chars_eq_flatten`). A name whose upper-case letters have lower-case forms is its
own snake case exactly if it has no upper-case letter (`SnakeCase.ofName_eq_self_iff`); these are
the names that the snake-case strategy declines (`Strategy.declines_snakeCase_iff`). -/

namespace AggregateRouting

namespace Letter
variable {name : String}

def HasUpper (name : String) : Prop :=
  ∃ c ∈ name.toList, isUpper c = true

instance : DecidablePred HasUpper := fun name =>
  decidable_of_iff (name.toList.any isUpper = true) (by simp [HasUpper])

theorem not_hasUpper_iff : ¬ HasUpper name ↔ ∀ c ∈ name.toList, isUpper c = false := by
  simp [HasUpper]

theorem toNat_of_isUpper {c : Char} (hascii : c.toNat < 128) (h : isUpper c = true) :
    65 ≤ c.toNat ∧ c.toNat < 65 + 26 := by
  have hruns : ∀ r ∈ runs, r.first < 128 →
      (65 ≤ r.first ∧ r.last ≤ 90) ∨ (r.pattern matches .lower) = true := by
    decide +kernel
  have hdotted : c ≠ '\u0130' := by
    rintro rfl
    exact absurd hascii (by decide)
  rw [isUpper_iff, ofChar?, if_neg hdotted] at h
  obtain ⟨r, hfind, hletter⟩ := Option.map_eq_some_iff.1 h
  have hwithin := List.find?_some hfind
  rw [Bool.and_eq_true, decide_eq_true_iff, decide_eq_true_iff] at hwithin
  obtain ⟨hlow, hhigh⟩ := hwithin
  rcases hruns r (List.mem_of_find?_eq_some hfind) (by omega) with ⟨hfirst, hlast⟩ | hlower
  · omega
  · -- A run of lower-case letters holds no other.
    cases hpattern : r.pattern with
    | lower =>
      rw [Run.letter, hpattern] at hletter
      cases hletter
    | upper _ | paired =>
      rw [hpattern] at hlower
      cases hlower

theorem lowerable_of_ascii (h : ∀ c ∈ name.toList, c.toNat < 128) : Lowerable name := by
  intro c hc hu
  obtain ⟨hlow, hhigh⟩ := toNat_of_isUpper (h c hc) hu
  have hall : (lowercase c).all (!isUpper ·) = true :=
    forall_within (P := fun c => (lowercase c).all (!isUpper ·) = true) (by decide +kernel) hlow
      hhigh
  simpa using hall

end Letter

namespace SnakeCase
variable {previous : Option Char} {c : Char} {name : String}

/-- What a character becomes that comes after `previous`, or that begins a name. -/
def piece (previous : Option Char) (c : Char) : List Char :=
  if Letter.isUpper c then
    if previous.any fun p => Letter.isLower p || p.isDigit then '_' :: Letter.lowercase c
    else Letter.lowercase c
  else [c]

def pieces (cs : List Char) : List (List Char) :=
  List.zipWith piece (none :: cs.map some) cs

theorem piece_of_upper (h : Letter.isUpper c = true) :
    piece previous c = (if previous.any endsWord then ['_'] else []) ++ Letter.lowercase c := by
  rw [piece, if_pos h]
  change (if previous.any endsWord then '_' :: Letter.lowercase c else Letter.lowercase c) = _
  split <;> rfl

theorem piece_of_other (h : Letter.isUpper c = false) : piece previous c = [c] := by
  simp [piece, h]

theorem endsWord_of_isUpper (h : Letter.isUpper c = true) : endsWord c = false := by
  by_contra hends
  rw [Bool.not_eq_false] at hends
  rw [isUpper_of_endsWord hends] at h
  cases h

/-- All that the conversion remembers can be told from the character it read last. -/
theorem chars_eq_flatten (previous : Option Char) (cs : List Char) :
    chars (previous.any endsWord) cs
      = (List.zipWith piece (previous :: cs.map some) cs).flatten := by
  induction cs generalizing previous with
  | nil => rfl
  | cons c cs ih =>
    rw [List.map_cons, List.zipWith_cons_cons, List.flatten_cons, ← ih (some c), Option.any_some]
    cases hu : Letter.isUpper c with
    | true => rw [chars_cons_upper hu, piece_of_upper hu, endsWord_of_isUpper hu]
    | false => rw [chars_cons_other hu, piece_of_other hu, List.singleton_append]

theorem toList_ofName_eq_flatten (name : String) :
    (ofName name).toList = (pieces name.toList).flatten := by
  rw [toList_ofName]
  exact chars_eq_flatten none name.toList

theorem not_hasUpper_ofName (h : Letter.Lowerable name) : ¬ Letter.HasUpper (ofName name) :=
  Letter.not_hasUpper_iff.2 (isUpper_of_mem_ofName h)

theorem ofName_eq_self_iff (h : Letter.Lowerable name) :
    ofName name = name ↔ ¬ Letter.HasUpper name := by
  constructor
  · intro hself
    rw [← hself]
    exact not_hasUpper_ofName h
  · exact fun hnone => ofName_eq_self (Letter.not_hasUpper_iff.1 hnone)

end SnakeCase

namespace Strategy
variable {name : String}

/-- A strategy declines a name if it finds no property under it whatever a type would answer. -/
def Declines (s : Strategy) (name : String) : Prop :=
  ∀ t, s t name = none

theorem snakeCase_eq (h : Letter.Lowerable name) (t : RecordType) :
    snakeCase t name
      = if Letter.HasUpper name then t.property? (SnakeCase.ofName name) else none := by
  rw [snakeCase]
  by_cases hupper : Letter.HasUpper name
  · rw [if_pos hupper, if_neg (mt (SnakeCase.ofName_eq_self_iff h).1 (not_not_intro hupper))]
  · rw [if_neg hupper, if_pos ((SnakeCase.ofName_eq_self_iff h).2 hupper)]

theorem declines_snakeCase_iff (h : Letter.Lowerable name) :
    snakeCase.Declines name ↔ ¬ Letter.HasUpper name := by
  constructor
  · -- A type that has a property of every name would be asked for one.
    intro hnone hupper
    have hecho := hnone Shop.echo.type
    rw [snakeCase_eq h, if_pos hupper] at hecho
    cases hecho
  · intro hupper t
    rw [snakeCase_eq h, if_neg hupper]

end Strategy

/-- A name in snake case is put together from one piece for each character, which depends on the
character before it only. Names of ASCII have no upper-case letter afterwards, and the snake-case
strategy declines those that had none. -/
theorem snake_case_is_local (name : String) :
    (SnakeCase.ofName name).toList = (SnakeCase.pieces name.toList).flatten
    ∧ (¬ Letter.HasUpper name → SnakeCase.ofName name = name)
    ∧ (Letter.Lowerable name →
        ¬ Letter.HasUpper (SnakeCase.ofName name)
        ∧ SnakeCase.ofName (SnakeCase.ofName name) = SnakeCase.ofName name
        ∧ (SnakeCase.ofName name = name ↔ ¬ Letter.HasUpper name)
        ∧ (Strategy.snakeCase.Declines name ↔ ¬ Letter.HasUpper name)
        ∧ ∀ t : RecordType, Strategy.snakeCase t name
          = if Letter.HasUpper name then t.property? (SnakeCase.ofName name) else none)
    ∧ ((∀ c ∈ name.toList, c.toNat < 128) → Letter.Lowerable name) := by
  refine ⟨SnakeCase.toList_ofName_eq_flatten name, ?_, ?_, Letter.lowerable_of_ascii⟩
  · intro hnone
    exact SnakeCase.ofName_eq_self (Letter.not_hasUpper_iff.1 hnone)
  · intro h
    exact ⟨SnakeCase.not_hasUpper_ofName h, SnakeCase.ofName_ofName h,
      SnakeCase.ofName_eq_self_iff h, Strategy.declines_snakeCase_iff h, Strategy.snakeCase_eq h⟩

/-- An underscore goes between a digit and a capital, but not between two capitals. An echo has a
property of every name, and the strategy finds it unless the name is in snake case already. -/
theorem item_number_goes_to_snake_case :
    (∀ c ∈ "lineItem2ID".toList, c.toNat < 128) ∧ Letter.Lowerable "lineItem2ID"
    ∧ SnakeCase.pieces "m2ID".toList = [['m'], ['2'], ['_', 'i'], ['d']]
    ∧ SnakeCase.ofName "lineItem2ID" = "line_item2_id"
    ∧ ¬ Letter.HasUpper "line_item2_id"
    ∧ SnakeCase.ofName "line_item2_id" = "line_item2_id"
    ∧ (Strategy.snakeCase Shop.echo.type "lineItem2ID").map (·.name) = some "line_item2_id"
    ∧ Strategy.snakeCase.Declines "line_item2_id" := by
  have hascii : ∀ c ∈ "lineItem2ID".toList, c.toNat < 128 := by simp
  have hsnake : SnakeCase.ofName "lineItem2ID" = "line_item2_id" := by decide +kernel
  have hupper : Letter.HasUpper "lineItem2ID" := by decide +kernel
  obtain ⟨-, -, hlower, hlowerable⟩ := snake_case_is_local "lineItem2ID"
  have hlowerable := hlowerable hascii
  obtain ⟨hnone, -, -, -, hfound⟩ := hlower hlowerable
  rw [hsnake] at hnone
  obtain ⟨-, hsame, hlower', -⟩ := snake_case_is_local "line_item2_id"
  obtain ⟨-, -, -, hdeclines, -⟩ := hlower' (by decide +kernel)
  refine ⟨hascii, hlowerable, by decide +kernel, hsnake, hnone, hsame hnone, ?_,
    hdeclines.2 hnone⟩
  rw [hfound, if_pos hupper, hsnake]
  rfl

/-- The double-struck capital C has no lower-case form. It stays, and where the letter before it has
become a lower-case one, an underscore comes in the second time. -/
example : SnakeCase.ofName "X\u2102" = "x\u2102" ∧ SnakeCase.ofName "x\u2102" = "x_\u2102" := by
  decide +kernel

end AggregateRouting
