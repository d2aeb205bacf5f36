import AggregateRouting.Text.SnakeCase
import Mathlib.Data.List.Basic

/-! # Names that are in snake case

What is put in snake case has no upper-case letters left, if the lower-case forms of its letters
have none (`SnakeCase.isUpper_of_mem_chars`), and a name without them is its own snake case. So
putting a name in snake case again changes nothing (`SnakeCase.ofName_ofName`). -/

namespace AggregateRouting

/-- Every upper-case letter of a name has a lower-case form without upper-case letters. -/
def Letter.Lowerable (name : String) : Prop :=
  ∀ c ∈ name.toList, isUpper c = true → ∀ d ∈ lowercase c, isUpper d = false

instance : DecidablePred Letter.Lowerable := fun name =>
  decidable_of_iff
    (name.toList.all (fun c => !Letter.isUpper c || (Letter.lowercase c).all (!Letter.isUpper ·)))
    (by simp [Letter.Lowerable, or_iff_not_imp_left])

namespace Letter
variable {c : Char}

theorem forall_within {P : Char → Prop} {first count : Nat}
    (h : ∀ n < count, P (Char.ofNat (first + n))) (hlow : first ≤ c.toNat)
    (hhigh : c.toNat < first + count) : P c := by
  have hc := h (c.toNat - first) (by omega)
  rwa [show first + (c.toNat - first) = c.toNat by omega, Char.ofNat_toNat] at hc

theorem isUpper_of_isLower (h : isLower c = true) : isUpper c = false := by
  by_contra hu
  rw [Bool.not_eq_false] at hu
  rw [not_isLower_of_isUpper hu] at h
  cases h

theorem isUpper_of_isDigit (h : c.isDigit = true) : isUpper c = false := by
  obtain ⟨hlow, hhigh⟩ := Char.isDigit_iff_toNat.1 h
  have hhigh : c.toNat < 48 + 10 := Nat.lt_succ_of_le hhigh
  exact forall_within (P := fun c => isUpper c = false) (by decide +kernel) hlow hhigh

end Letter

namespace SnakeCase
variable {inWord : Bool} {c : Char} {cs : List Char} {name : String}

theorem isUpper_of_endsWord (h : endsWord c = true) : Letter.isUpper c = false := by
  rcases Bool.or_eq_true_iff.1 h with h | h
  · exact Letter.isUpper_of_isLower h
  · exact Letter.isUpper_of_isDigit h

theorem chars_eq_self (h : ∀ c ∈ cs, Letter.isUpper c = false) : chars inWord cs = cs := by
  induction cs generalizing inWord with
  | nil => rfl
  | cons c cs ih =>
    rw [List.forall_mem_cons] at h
    rw [chars_cons_other h.1, ih h.2]

theorem isUpper_of_mem_chars
    (h : ∀ c ∈ cs, Letter.isUpper c = true → ∀ d ∈ Letter.lowercase c, Letter.isUpper d = false)
    {d : Char} (hd : d ∈ chars inWord cs) : Letter.isUpper d = false := by
  induction cs generalizing inWord with
  | nil => cases hd
  | cons c cs ih =>
    obtain ⟨hc, hcs⟩ := List.forall_mem_cons.1 h
    cases hu : Letter.isUpper c with
    | false =>
      rw [chars_cons_other hu] at hd
      rcases List.mem_cons.1 hd with rfl | hd
      · exact hu
      · exact ih hcs hd
    | true =>
      rw [chars_cons_upper hu] at hd
      rcases List.mem_append.1 hd with hd | hd
      · rcases List.mem_append.1 hd with hd | hd
        · have hunderscore : d = '_' := by
            cases inWord <;> simp_all
          rw [hunderscore]
          decide +kernel
        · exact hc hu d hd
      · exact ih hcs hd

theorem ofName_eq_self (h : ∀ c ∈ name.toList, Letter.isUpper c = false) : ofName name = name := by
  rw [ofName, chars_eq_self h, String.ofList_toList]

theorem isUpper_of_mem_ofName (h : Letter.Lowerable name) :
    ∀ c ∈ (ofName name).toList, Letter.isUpper c = false := by
  intro c hc
  rw [toList_ofName] at hc
  exact isUpper_of_mem_chars h hc

theorem ofName_ofName (h : Letter.Lowerable name) : ofName (ofName name) = ofName name :=
  ofName_eq_self (isUpper_of_mem_ofName h)

end SnakeCase
end AggregateRouting
