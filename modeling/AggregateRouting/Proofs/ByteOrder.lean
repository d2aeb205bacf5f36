import Mathlib.Data.String.Basic

/-! # The order of texts by their bytes

Texts are ordered by their code points. Main statement: that is the order of their UTF-8 forms, byte
by byte (`Utf8.bytes_lt_iff`). It comes from the forms of two characters: the first byte in which
they differ decides as the code points do, and neither form begins with the other. -/

namespace AggregateRouting.Utf8

def bytes (s : String) : List UInt8 :=
  s.toUTF8.data.toList

theorem bytes_eq_flatMap (s : String) : bytes s = s.toList.flatMap String.utf8EncodeChar := by
  have h : s.toUTF8 = (s.toList.flatMap String.utf8EncodeChar).toByteArray := by
    conv_lhs => rw [← String.ofList_toList (s := s)]
    exact String.toByteArray_ofList
  rw [bytes, h]
  simp

theorem toNat_lt (c : Char) : c.val.toNat < 1114112 := by
  rcases c.valid with h | ⟨-, h⟩
  · exact Nat.lt_trans h (by decide)
  · exact h

theorem lt_digits {n k : Nat} (h : n < k) :
    n / 262144 < k / 262144
      ∨ n / 262144 = k / 262144 ∧ (n / 4096 < k / 4096
        ∨ n / 4096 = k / 4096 ∧ (n / 64 < k / 64 ∨ n / 64 = k / 64 ∧ n % 64 < k % 64)) := by
  omega

theorem encode_append_lt {c d : Char} (h : c < d) (xs ys : List UInt8) :
    String.utf8EncodeChar c ++ xs < String.utf8EncodeChar d ++ ys := by
  have hlt : c.val.toNat < d.val.toNat := h
  have hd := toNat_lt d
  unfold String.utf8EncodeChar
  generalize c.val.toNat = n at *
  generalize d.val.toNat = k at *
  dsimp only
  rcases lt_digits hlt with h18 | ⟨h18, h12 | ⟨h12, h6 | ⟨h6, h0⟩⟩⟩ <;> split_ifs <;>
    simp only [List.cons_append, List.nil_append, List.cons_lt_cons_iff, UInt8.lt_iff_toNat_lt,
      ← UInt8.toNat_inj, UInt8.toNat_ofNat'] <;> omega

theorem encode_ne_nil (c : Char) : String.utf8EncodeChar c ≠ [] := by
  unfold String.utf8EncodeChar
  dsimp only
  split_ifs <;> exact List.cons_ne_nil _ _

theorem flatMap_encode_lt {cs ds : List Char} (h : cs < ds) :
    cs.flatMap String.utf8EncodeChar < ds.flatMap String.utf8EncodeChar := by
  induction h with
  | @nil d ds =>
    obtain ⟨b, bs, hd⟩ := List.exists_cons_of_ne_nil (encode_ne_nil d)
    rw [List.flatMap_cons, hd]
    exact List.nil_lt_cons _ _
  | cons _ ih => exact List.append_left_lt ih
  | rel hcd => exact encode_append_lt hcd _ _

theorem bytes_lt_of_lt {s t : String} (h : s < t) : bytes s < bytes t := by
  rw [bytes_eq_flatMap, bytes_eq_flatMap]
  exact flatMap_encode_lt (String.lt_iff_toList_lt.1 h)

/-- A text comes before another exactly if its bytes do. -/
theorem bytes_lt_iff {s t : String} : bytes s < bytes t ↔ s < t := by
  constructor
  · intro h
    rcases lt_trichotomy s t with hlt | rfl | hgt
    · exact hlt
    · exact absurd h (List.lt_irrefl _)
    · exact absurd (bytes_lt_of_lt hgt) (List.lt_asymm h)
  · exact bytes_lt_of_lt

end AggregateRouting.Utf8
