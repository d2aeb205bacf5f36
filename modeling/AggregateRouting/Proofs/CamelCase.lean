import AggregateRouting.Proofs.SnakeCase
import AggregateRouting.Shop.Catalog
import AggregateRouting.Strategy
import Mathlib.Data.List.Count
import Mathlib.Data.List.Flatten
import Mathlib.Data.List.Induction

/-! # From camel case to snake case

Words that are written together, each but the first with a capital, are found again in snake case
(`camel_case_is_recovered`) but for one thing: a capital right after a capital begins no word, so
the underscore is missing after a word of one character between other words. -/

namespace AggregateRouting

namespace Letter
variable {c : Char}

theorem toNat_of_isLower (h : c.isLower = true) : 97 ≤ c.toNat ∧ c.toNat < 97 + 26 := by
  obtain ⟨hlow, hhigh⟩ := Bool.and_eq_true_iff.1 h
  exact ⟨UInt32.le_iff_toNat_le.1 (of_decide_eq_true hlow),
    Nat.lt_succ_of_le (UInt32.le_iff_toNat_le.1 (of_decide_eq_true hhigh))⟩

theorem isLower_of_ascii (h : c.isLower = true) : isLower c = true := by
  obtain ⟨hlow, hhigh⟩ := toNat_of_isLower h
  exact forall_within (P := fun c => isLower c = true) (by decide +kernel) hlow hhigh

theorem ofChar?_toUpper (h : c.isLower = true) : ofChar? c.toUpper = some (.upper [c]) := by
  obtain ⟨hlow, hhigh⟩ := toNat_of_isLower h
  exact forall_within (P := fun c => ofChar? c.toUpper = some (.upper [c])) (by decide +kernel)
    hlow hhigh

theorem isUpper_toUpper (h : c.isLower = true) : isUpper c.toUpper = true := by
  simp [isUpper, ofChar?_toUpper h]

theorem lowercase_toUpper (h : c.isLower = true) : lowercase c.toUpper = [c] := by
  simp [lowercase, ofChar?_toUpper h]

end Letter

namespace SnakeCase
variable {c : Char} {cs tail : List Char}

theorem chars_append_of_endsWord (inWord : Bool) (h : ∀ c ∈ cs, endsWord c = true) :
    chars inWord (cs ++ tail) = cs ++ chars (if cs = [] then inWord else true) tail := by
  induction cs generalizing inWord with
  | nil => rfl
  | cons c cs ih =>
    obtain ⟨hc, hcs⟩ := List.forall_mem_cons.1 h
    rw [List.cons_append, chars_cons_other (isUpper_of_endsWord hc), ih _ hcs, hc]
    simp

end SnakeCase

namespace CamelCase

/-- A word of a name: a lower-case letter of the alphabet, and lower-case letters and digits. -/
structure Word where
  first : Char
  rest : List Char
  isLower_first : first.isLower = true
  isLower_or_isDigit : ∀ c ∈ rest, Letter.isLower c = true ∨ c.isDigit = true

namespace Word
variable {w : Word}

def chars (w : Word) : List Char :=
  w.first :: w.rest

def text (w : Word) : String :=
  String.ofList w.chars

def capitalized (w : Word) : String :=
  String.ofList (w.first.toUpper :: w.rest)

@[simp] theorem toList_text (w : Word) : w.text.toList = w.chars :=
  String.toList_ofList

theorem length_text (w : Word) : w.text.length = w.rest.length + 1 :=
  String.length_ofList

theorem length_text_eq_one_iff : w.text.length = 1 ↔ w.rest = [] := by
  rw [w.length_text, ← List.length_eq_zero_iff]
  omega

theorem endsWord_of_mem_rest (w : Word) : ∀ c ∈ w.rest, SnakeCase.endsWord c = true :=
  fun c hc => Bool.or_eq_true_iff.2 (w.isLower_or_isDigit c hc)

theorem endsWord_first (w : Word) : SnakeCase.endsWord w.first = true :=
  Bool.or_eq_true_iff.2 (.inl (Letter.isLower_of_ascii w.isLower_first))

end Word

def camel (w : Word) (ws : List Word) : String :=
  w.text ++ String.join (ws.map (·.capitalized))

def snake (w : Word) (ws : List Word) : String :=
  "_".intercalate ((w :: ws).map (·.text))

/-- A word between others as snake case has it that was made from camel case: with an underscore
after it, unless it has only one character. -/
def underscored (w : Word) : String :=
  w.text ++ if w.text.length = 1 then "" else "_"

variable {w last : Word} {ws inner : List Word} {tail : List Char}

theorem toList_camel (w : Word) (ws : List Word) :
    (camel w ws).toList = w.chars ++ ws.flatMap fun v => v.first.toUpper :: v.rest := by
  simp [camel, Word.capitalized, List.flatMap_map]

theorem toList_snake (w : Word) (ws : List Word) :
    (snake w ws).toList = w.chars ++ ws.flatMap fun v => '_' :: v.chars := by
  rw [snake, String.toList_intercalate, List.map_map]
  induction ws generalizing w with
  | nil => simp
  | cons v ws ih =>
    rw [List.map_cons, List.map_cons, List.intercalate_cons_cons, ← List.map_cons, ih v]
    simp

theorem toList_underscored (w : Word) :
    (underscored w).toList = w.chars ++ if w.rest = [] then [] else ['_'] := by
  rw [underscored, String.toList_append, Word.toList_text]
  by_cases h : w.rest = []
  · rw [if_pos h, if_pos (Word.length_text_eq_one_iff.2 h), String.toList_empty]
  · rw [if_neg h, if_neg (Word.length_text_eq_one_iff.not.2 h)]
    rfl

/-! ### The converter on words -/

theorem chars_word_append (inWord : Bool) (w : Word) (tail : List Char) :
    SnakeCase.chars inWord (w.chars ++ tail) = w.chars ++ SnakeCase.chars true tail := by
  have h : ∀ c ∈ w.chars, SnakeCase.endsWord c = true :=
    List.forall_mem_cons.2 ⟨w.endsWord_first, w.endsWord_of_mem_rest⟩
  rw [SnakeCase.chars_append_of_endsWord inWord h, Word.chars,
    if_neg (List.cons_ne_nil _ _)]

theorem chars_capitalized_append (inWord : Bool) (w : Word) (tail : List Char) :
    SnakeCase.chars inWord (w.first.toUpper :: w.rest ++ tail)
      = (if inWord then ['_'] else []) ++ w.chars
        ++ SnakeCase.chars (if w.rest = [] then false else true) tail := by
  rw [List.cons_append, SnakeCase.chars_cons_upper (Letter.isUpper_toUpper w.isLower_first),
    Letter.lowercase_toUpper w.isLower_first,
    SnakeCase.chars_append_of_endsWord false w.endsWord_of_mem_rest]
  simp [Word.chars]

theorem chars_capitalized (inWord : Bool) (inner : List Word) (last : Word) :
    SnakeCase.chars inWord ((inner ++ [last]).flatMap fun v => v.first.toUpper :: v.rest)
      = (if inWord then ['_'] else []) ++ (inner.flatMap fun v => (underscored v).toList)
        ++ last.chars := by
  -- What a word leaves behind it is whether it has more than one character.
  induction inner generalizing inWord with
  | nil =>
    have h := chars_capitalized_append inWord last []
    simpa [SnakeCase.chars] using h
  | cons v inner ih =>
    rw [List.cons_append, List.flatMap_cons, chars_capitalized_append, ih, List.flatMap_cons,
      toList_underscored]
    by_cases h : v.rest = [] <;> simp [h]

theorem ofName_camel_nil (w : Word) : SnakeCase.ofName (camel w []) = w.text := by
  have h := chars_word_append false w []
  rw [List.append_nil, SnakeCase.chars, List.append_nil] at h
  rw [SnakeCase.ofName, toList_camel, List.flatMap_nil, List.append_nil, h, Word.text]

/-- Of the underscores between words those after inner words of one character are missing. -/
theorem ofName_camel_concat (w : Word) (inner : List Word) (last : Word) :
    SnakeCase.ofName (camel w (inner ++ [last]))
      = w.text ++ "_" ++ String.join (inner.map underscored) ++ last.text := by
  apply String.toList_injective
  rw [SnakeCase.toList_ofName, toList_camel, chars_word_append, chars_capitalized]
  simp [List.flatMap_map]

/-! ### Which underscores are missing -/

theorem toList_snake_concat (w : Word) (inner : List Word) (last : Word) :
    (snake w (inner ++ [last])).toList
      = w.chars ++ ['_'] ++ (inner.flatMap fun v => v.chars ++ ['_']) ++ last.chars := by
  -- The underscores move from before the words to after them.
  have hshift : ∀ inner : List Word, ((inner.flatMap fun v => '_' :: v.chars) ++ ['_'])
      = '_' :: inner.flatMap fun v => v.chars ++ ['_'] := by
    intro inner
    induction inner with
    | nil => rfl
    | cons v inner ih => simp [ih]
  rw [toList_snake, List.flatMap_append, List.flatMap_singleton]
  have h := hshift inner
  calc w.chars ++ ((inner.flatMap fun v => '_' :: v.chars) ++ '_' :: last.chars)
      = w.chars ++ (((inner.flatMap fun v => '_' :: v.chars) ++ ['_']) ++ last.chars) := by simp
    _ = _ := by simp [h]

theorem length_underscored_add (inner : List Word) :
    (inner.flatMap fun v => (underscored v).toList).length
        + inner.countP (fun v => v.text.length = 1)
      = (inner.flatMap fun v => v.chars ++ ['_']).length := by
  induction inner with
  | nil => rfl
  | cons v inner ih =>
    rw [List.flatMap_cons, List.flatMap_cons, List.length_append, List.length_append,
      List.countP_cons, ← ih, toList_underscored]
    by_cases h : v.rest = [] <;> simp [Word.length_text_eq_one_iff, h] <;> omega

theorem flatMap_underscored_eq_iff :
    (inner.flatMap fun v => (underscored v).toList) = (inner.flatMap fun v => v.chars ++ ['_'])
      ↔ ∀ v ∈ inner, 2 ≤ v.text.length := by
  have hlong : ∀ v : Word, 2 ≤ v.text.length ↔ ¬ v.text.length = 1 := by
    intro v
    have := v.length_text
    omega
  constructor
  · -- Equal lists are of the same length, so no underscore is missing.
    intro h v hv
    have hlength := length_underscored_add inner
    rw [h, Nat.add_eq_left, List.countP_eq_zero] at hlength
    exact (hlong v).2 fun hone => hlength v hv (decide_eq_true hone)
  · intro h
    refine List.flatMap_congr fun v hv => ?_
    have hrest := Word.length_text_eq_one_iff.not.1 ((hlong v).1 (h v hv))
    rw [toList_underscored, if_neg hrest]

theorem ofName_camel_eq_snake_iff (w : Word) (ws : List Word) :
    SnakeCase.ofName (camel w ws) = snake w ws ↔ ∀ v ∈ ws.dropLast, 2 ≤ v.text.length := by
  rcases ws.eq_nil_or_concat with rfl | ⟨inner, last, rfl⟩
  · simp [ofName_camel_nil, snake]
  · rw [List.concat_eq_append, List.dropLast_concat, ← flatMap_underscored_eq_iff,
      ← String.toList_inj, ofName_camel_concat, toList_snake_concat]
    simp [List.flatMap_map]

theorem snake_ne_camel (hne : ws ≠ []) : snake w ws ≠ camel w ws := by
  intro h
  obtain ⟨v, ws, rfl⟩ := List.exists_cons_of_ne_nil hne
  have hchars := congrArg String.toList h
  rw [toList_snake, toList_camel, List.append_cancel_left_eq, List.flatMap_cons,
    List.flatMap_cons, List.cons_append, List.cons_append] at hchars
  have hfirst := (List.cons.inj hchars).1
  have hupper := Letter.isUpper_toUpper v.isLower_first
  rw [← hfirst] at hupper
  exact absurd hupper (by decide +kernel)

end CamelCase

open CamelCase

/-- What is made from words in camel case is missing the underscores after words of one character
between others, and no other. A property of that name is found under the name in camel case unless
that is a single word. -/
theorem camel_case_is_recovered (w : Word) (ws : List Word) :
    (SnakeCase.ofName (camel w ws) = snake w ws ↔ ∀ v ∈ ws.dropLast, 2 ≤ v.text.length)
    ∧ (∀ inner last, ws = inner ++ [last] →
        SnakeCase.ofName (camel w ws)
          = w.text ++ "_" ++ String.join (inner.map underscored) ++ last.text)
    ∧ ((∀ v ∈ ws.dropLast, 2 ≤ v.text.length) → ∀ t : RecordType,
        Strategy.snakeCase t (camel w ws)
          = if ws = [] then none else t.property? (snake w ws)) := by
  refine ⟨ofName_camel_eq_snake_iff w ws, ?_, ?_⟩
  · rintro inner last rfl
    exact ofName_camel_concat w inner last
  · intro hlong t
    have hsnake := (ofName_camel_eq_snake_iff w ws).2 hlong
    rw [Strategy.snakeCase, hsnake]
    by_cases hne : ws = []
    · have hsame : snake w ws = camel w ws := by
        rw [← hsnake, hne, ofName_camel_nil]
        simp [camel]
      rw [if_pos hsame, if_pos hne]
    · rw [if_neg (snake_ne_camel hne), if_neg hne]

example : SnakeCase.ofName "aBId" = "a_bid" := by
  decide +kernel

namespace CamelCase

def word (first : Char) (rest : String) (isLower_first : first.isLower = true := by decide)
    (endsWord : rest.toList.all SnakeCase.endsWord = true := by decide +kernel) : Word where
  first := first
  rest := rest.toList
  isLower_first := isLower_first
  isLower_or_isDigit := fun c hc => Bool.or_eq_true_iff.1 (List.all_eq_true.1 endsWord c hc)

end CamelCase

theorem line_item2_id_is_found :
    (∀ v ∈ [word 'i' "tem2", word 'i' "d"].dropLast, 2 ≤ v.text.length)
    ∧ camel (word 'l' "ine") [word 'i' "tem2", word 'i' "d"] = "lineItem2Id"
    ∧ snake (word 'l' "ine") [word 'i' "tem2", word 'i' "d"] = "line_item2_id"
    ∧ (Strategy.snakeCase Shop.echo.type "lineItem2Id").map (·.name)
      = some "line_item2_id" := by
  have hlong : ∀ v ∈ [word 'i' "tem2", word 'i' "d"].dropLast, 2 ≤ v.text.length := by
    decide
  have hcamel : camel (word 'l' "ine") [word 'i' "tem2", word 'i' "d"] = "lineItem2Id" := by
    decide
  have hsnake : snake (word 'l' "ine") [word 'i' "tem2", word 'i' "d"] = "line_item2_id" := by
    decide
  obtain ⟨-, -, hfound⟩ := camel_case_is_recovered (word 'l' "ine") [word 'i' "tem2", word 'i' "d"]
  have hfound := hfound hlong Shop.echo.type
  rw [hcamel, hsnake] at hfound
  refine ⟨hlong, hcamel, hsnake, ?_⟩
  rw [hfound]
  rfl

/-- A single word is the same in camel case and in snake case, and the property of that name, which
lines have, is not found by its snake case. -/
theorem single_word_is_declined :
    camel (word 'q' "ty") [] = "qty" ∧ snake (word 'q' "ty") [] = "qty"
    ∧ (∀ v ∈ ([] : List Word).dropLast, 2 ≤ v.text.length)
    ∧ (Shop.line.type.property? (snake (word 'q' "ty") [])).isSome = true
    ∧ Strategy.snakeCase Shop.line.type (camel (word 'q' "ty") []) = none := by
  have hcamel : camel (word 'q' "ty") [] = "qty" := by decide
  have hsnake : snake (word 'q' "ty") [] = "qty" := by decide
  rw [hcamel, hsnake]
  refine ⟨rfl, rfl, nofun, by decide +kernel, ?_⟩
  rw [Strategy.snakeCase]
  exact if_pos (by decide +kernel)

end AggregateRouting
