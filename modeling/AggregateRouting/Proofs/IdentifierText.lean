import AggregateRouting.Uuid
import Mathlib.Algebra.Ring.Nat
import Mathlib.Data.List.Induction

/-! # The text of identifiers

`Uuid.hyphenated_iff`: the text of an identifier is the one text that has lower-case digits in
groups of 8, 4, 4, 4 and 12 and gives its number. `Uuid.text_injective`: no two identifiers have the
same text, since at its hyphens a text falls apart into the groups again. -/

namespace AggregateRouting

namespace Hex
variable {cs : List Char} {c : Char} {n : Nat}

def lowerDigits : List Char :=
  "0123456789abcdef".toList

theorem lowerDigits_eq : lowerDigits = (List.range 16).map Nat.digitChar := by
  decide

theorem mem_lowerDigits_iff : c ∈ lowerDigits ↔ ∃ d < 16, Nat.digitChar d = c := by
  rw [lowerDigits_eq, List.mem_map]
  simp only [List.mem_range]

theorem mem_lowerDigits_of_mem_digits {count : Nat} (h : c ∈ digits count n) : c ∈ lowerDigits := by
  induction count generalizing n with
  | zero => cases h
  | succ count ih =>
    rcases List.mem_append.1 h with h | h
    · exact ih h
    · obtain rfl := List.mem_singleton.1 h
      exact mem_lowerDigits_iff.2 ⟨_, Nat.mod_lt _ (by decide), rfl⟩

theorem number?_append_singleton :
    number? (cs ++ [c]) = (number? cs).bind fun n => (value? c).map (16 * n + ·) := by
  simp [number?, List.foldlM_append]

theorem digits_of_number? (hlower : ∀ c ∈ cs, c ∈ lowerDigits) (h : number? cs = some n) :
    digits cs.length n = cs := by
  induction cs using List.reverseRecOn generalizing n with
  | nil => rfl
  | append_singleton cs c ih =>
    rw [List.forall_mem_append, List.forall_mem_singleton] at hlower
    obtain ⟨d, hd, rfl⟩ := mem_lowerDigits_iff.1 hlower.2
    rw [number?_append_singleton, value?_digitChar d hd] at h
    obtain ⟨m, hm, h⟩ := Option.bind_eq_some_iff.1 h
    obtain rfl : 16 * m + d = n := Option.some.inj h
    have hdiv : (16 * m + d) / 16 = m := by omega
    have hmod : (16 * m + d) % 16 = d := by omega
    rw [List.length_append, List.length_singleton, digits, hdiv, hmod, ih hlower.1 hm]

end Hex

namespace Uuid
variable {u v : Uuid} {s : String} {cs : List Char} {groups : List (List Char)}

/-- A text is the hyphenated form of an identifier in lower case: its digits in groups of 8, 4, 4, 4
and 12 with hyphens between them. -/
inductive Hyphenated (u : Uuid) : String → Prop
  | groups (groups : List (List Char)) (sizes : groups.map List.length = [8, 4, 4, 4, 12])
      (lower : ∀ c ∈ groups.flatten, c ∈ Hex.lowerDigits)
      (number : Hex.number? groups.flatten = some u.bits.toNat) :
      Hyphenated u (String.ofList (['-'].intercalate groups))

def cut : List Nat → List Char → List (List Char)
  | [], _ => []
  | n :: ns, cs => cs.take n :: cut ns (cs.drop n)

theorem map_length_cut {sizes : List Nat} (h : sizes.sum ≤ cs.length) :
    (cut sizes cs).map List.length = sizes := by
  induction sizes generalizing cs with
  | nil => rfl
  | cons n ns ih =>
    rw [List.sum_cons] at h
    have hrest : ns.sum ≤ (cs.drop n).length := by
      rw [List.length_drop]
      omega
    rw [cut, List.map_cons, ih hrest, List.length_take, Nat.min_eq_left (by omega)]

theorem flatten_cut {sizes : List Nat} (h : cs.length = sizes.sum) :
    (cut sizes cs).flatten = cs := by
  induction sizes generalizing cs with
  | nil => exact (List.length_eq_zero_iff.1 h).symm
  | cons n ns ih =>
    rw [List.sum_cons] at h
    have hrest : (cs.drop n).length = ns.sum := by
      rw [List.length_drop]
      omega
    rw [cut, List.flatten_cons, ih hrest, List.take_append_drop]

theorem cut_flatten (groups : List (List Char)) :
    cut (groups.map List.length) groups.flatten = groups := by
  induction groups with
  | nil => rfl
  | cons g groups ih =>
    rw [List.map_cons, List.flatten_cons, cut, List.take_left, List.drop_left, ih]

theorem text_eq (u : Uuid) :
    u.text = String.ofList
      (['-'].intercalate (cut [8, 4, 4, 4, 12] (Hex.digits 32 u.bits.toNat))) := by
  simp only [text, cut, List.drop_drop]
  rfl

theorem length_digits (u : Uuid) : (Hex.digits 32 u.bits.toNat).length = 32 :=
  Hex.length_digits ..

theorem number?_digits (u : Uuid) :
    Hex.number? (Hex.digits 32 u.bits.toNat) = some u.bits.toNat := by
  rw [Hex.number?_digits, Nat.mod_eq_of_lt]
  exact u.bits.isLt

theorem flatten_cut_digits (u : Uuid) :
    (cut [8, 4, 4, 4, 12] (Hex.digits 32 u.bits.toNat)).flatten = Hex.digits 32 u.bits.toNat :=
  flatten_cut u.length_digits

theorem hyphenated_iff : u.Hyphenated s ↔ s = u.text := by
  constructor
  · rintro ⟨groups, sizes, lower, number⟩
    have hdigits := Hex.digits_of_number? lower number
    have hcount : groups.flatten.length = 32 := by
      rw [List.length_flatten, sizes]
      rfl
    rw [text_eq, ← hcount, hdigits, ← sizes, cut_flatten]
  · rintro rfl
    rw [text_eq]
    refine .groups _ (map_length_cut (Nat.le_of_eq u.length_digits.symm)) (fun c hc => ?_) ?_
    · rw [flatten_cut_digits] at hc
      exact Hex.mem_lowerDigits_of_mem_digits hc
    · rw [flatten_cut_digits, number?_digits]

theorem splitOn_text (u : Uuid) :
    u.text.toList.splitOn '-' = cut [8, 4, 4, 4, 12] (Hex.digits 32 u.bits.toNat) := by
  rw [text_eq, String.toList_ofList]
  refine List.splitOn_intercalate _ (fun g hg hmem => ?_) (by simp [cut])
  have hdigit := List.mem_flatten_of_mem hg hmem
  rw [flatten_cut_digits] at hdigit
  have hno : '-' ∉ Hex.lowerDigits := by decide
  exact hno (Hex.mem_lowerDigits_of_mem_digits hdigit)

theorem text_injective : Function.Injective text := by
  intro u v h
  have hdigits := congrArg (fun s => (s.toList.splitOn '-').flatten) h
  simp only [splitOn_text, flatten_cut_digits] at hdigits
  have hnumber := u.number?_digits
  rw [hdigits, number?_digits] at hnumber
  have hbits : u.bits = v.bits := BitVec.eq_of_toNat_eq (Option.some.inj hnumber).symm
  exact congrArg Uuid.mk hbits

end Uuid
end AggregateRouting
