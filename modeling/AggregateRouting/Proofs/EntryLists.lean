import AggregateRouting.Source.Entry
import Mathlib.Data.List.Basic

/-! # Lists of entries

A list is read as entries that are words, alone or with a text after an equals sign, exactly if it
consists of such entries with commas between them and perhaps one at the end
(`Source.entries_eq_iff`). -/

namespace AggregateRouting

namespace Entry

def alone (word : String) : Entry :=
  { key := .name word }

def given (word text : String) : Entry :=
  { key := .name word, value := some (.text text) }

inductive IsPlain : Entry → Prop
  | alone (word : String) : IsPlain (alone word)
  | given (word text : String) : IsPlain (given word text)

theorem isPlain_iff {e : Entry} :
    e.IsPlain ↔ (∃ word, e.key = .name word)
      ∧ (e.value = none ∨ ∃ text, e.value = some (.text text)) ∧ e.more = false := by
  constructor
  · rintro (word | ⟨word, text⟩)
    · exact ⟨⟨word, rfl⟩, .inl rfl, rfl⟩
    · exact ⟨⟨word, rfl⟩, .inr ⟨text, rfl⟩, rfl⟩
  · obtain ⟨key, value, more⟩ := e
    rintro ⟨⟨word, rfl⟩, rfl | ⟨text, rfl⟩, rfl⟩
    · exact .alone word
    · exact .given word text

end Entry

namespace Source
variable {last : Bool} {depth : Nat} {ts part rest : List Token} {e : Entry} {es : List Entry}

/-- The tokens of an entry that is a word, alone or with a text. -/
inductive Spells : List Token → Entry → Prop
  | alone (word : String) : Spells [.word word] (.alone word)
  | given (word : String) (joint : Bool) (text written : String) :
    Spells [.word word, .mark '=' joint, .quoted text written] (.given word text)

/-- The tokens of entries with commas between them, and perhaps one at the end. -/
inductive SpellsList : List Token → List Entry → Prop
  | nil : SpellsList [] []
  | last {ts : List Token} {e : Entry} (entry : Spells ts e) : SpellsList ts [e]
  | more {ts ts' : List Token} {e : Entry} {es : List Entry} (entry : Spells ts e) (joint : Bool)
    (rest : SpellsList ts' es) : SpellsList (ts ++ .mark ',' joint :: ts') (e :: es)

theorem Spells.isPlain (h : Spells ts e) : e.IsPlain := by
  cases h with
  | alone word => exact .alone word
  | given word _ text _ => exact .given word text

/-! ### One entry -/

theorem afterPath_suffix (ts : List Token) : (afterPath ts).2 <:+ ts := by
  fun_induction afterPath ts with
  | case1 joint word ts ih => exact ih.trans ⟨[_, _, _], rfl⟩
  | case2 joint ts => exact ⟨[_, _], rfl⟩
  | case3 ts => exact List.suffix_rfl

theorem keyFrom_eq_name_iff {first? : Option String} {single? : Option Key} {word : String} :
    keyFrom first? single? last ts = (.name word, rest)
      ↔ single? = some (.name word) ∧ afterPath ts = (false, ts) ∧ rest = ts := by
  have hsuffix := afterPath_suffix ts
  unfold keyFrom
  rcases h : afterPath ts with ⟨missing, left⟩
  rw [h] at hsuffix
  cases missing with
  | true => simp
  | false =>
    have hsame : left.length = ts.length ↔ left = ts :=
      ⟨fun hl => hsuffix.eq_of_length hl, fun hl => hl ▸ rfl⟩
    by_cases hl : left = ts
    · subst hl
      cases single? <;> simp [eq_comm]
    · simp [hsame, hl]

theorem keyOf_eq_name_iff {word : String} :
    keyOf last ts = (.name word, rest)
      ↔ ts = .word word :: rest ∧ afterPath rest = (false, rest) := by
  unfold keyOf
  split
  case h_1 =>
    rw [keyFrom_eq_name_iff]
    constructor
    · rintro ⟨⟨⟩, hpath, rfl⟩
      exact ⟨rfl, hpath⟩
    · rintro ⟨⟨⟩, hpath⟩
      exact ⟨rfl, hpath, rfl⟩
  case h_2 => simp [keyFrom_eq_name_iff]
  case h_3 =>
    split
    · simp
    · split <;> simp
  case h_4 hword _ _ =>
    have hne : ¬ (ts = .word word :: rest ∧ afterPath rest = (false, rest)) :=
      fun h => hword word rest h.1
    split <;> simp [hne]

theorem key_entryOf (last : Bool) (ts : List Token) :
    (entryOf last ts).key = (keyOf last ts).1 := by
  unfold entryOf
  split <;> simp_all

theorem entryOf_of_spells (h : Spells ts e) : entryOf last ts = e := by
  cases h with
  | alone word =>
    have hkey : keyOf last [.word word] = (.name word, []) :=
      keyOf_eq_name_iff.2 ⟨rfl, by simp [afterPath]⟩
    simp [entryOf, hkey, Entry.alone]
  | given word joint text written =>
    have hkey : keyOf last [.word word, .mark '=' joint, .quoted text written]
        = (.name word, [.mark '=' joint, .quoted text written]) :=
      keyOf_eq_name_iff.2 ⟨rfl, by simp [afterPath]⟩
    simp [entryOf, hkey, Entry.given]

theorem entryOf_eq_iff (he : e.IsPlain) : entryOf last ts = e ↔ Spells ts e := by
  refine ⟨fun h => ?_, entryOf_of_spells⟩
  obtain ⟨⟨word, hword⟩, hvalue, hmore⟩ := Entry.isPlain_iff.1 he
  have hkey := key_entryOf last ts
  rw [h, hword] at hkey
  rcases hk : keyOf last ts with ⟨key, rest⟩
  rw [hk] at hkey
  obtain rfl : Key.name word = key := hkey
  obtain ⟨rfl, -⟩ := keyOf_eq_name_iff.1 hk
  rw [entryOf, hk] at h
  split at h
  case h_1 key joint text written rest heq =>
    cases heq
    subst h
    obtain rfl : rest = [] := by simpa using hmore
    exact .given word joint text written
  case h_2 key joint rest _ heq =>
    -- Such an entry has a value that is no text.
    cases heq
    subst h
    simp only [reduceCtorEq, Option.some.injEq, false_or] at hvalue
    obtain ⟨text, htext⟩ := hvalue
    split at htext <;> cases htext
  case h_3 key rest _ _ heq =>
    cases heq
    subst h
    obtain rfl : rest = [] := by simpa using hmore
    exact .alone word

/-! ### Commas -/

theorem splitAtCommas_cases (depth : Nat) (ts : List Token) :
    splitAtCommas depth ts = [ts]
      ∨ ∃ part joint rest, ts = part ++ .mark ',' joint :: rest
        ∧ splitAtCommas depth ts = part :: splitAtCommas 0 rest := by
  fun_induction splitAtCommas depth ts with
  | case1 => exact .inl rfl
  | case2 joint ts ih => exact .inr ⟨[], joint, ts, rfl, rfl⟩
  | case3 depth t ts _ depth' hnil ih =>
    rcases ih with ih | ⟨part, joint, rest, -, ih⟩
    · rw [hnil] at ih
      cases ih
    · rw [hnil] at ih
      cases ih
  | case4 depth t ts _ depth' part parts hcons ih =>
    rcases ih with ih | ⟨part', joint, rest, rfl, ih⟩
    · rw [hcons] at ih
      cases ih
      exact .inl rfl
    · rw [hcons] at ih
      cases ih
      exact .inr ⟨t :: part, joint, rest, rfl, rfl⟩

theorem splitAtCommas_ne_nil (depth : Nat) (ts : List Token) : splitAtCommas depth ts ≠ [] := by
  rcases splitAtCommas_cases depth ts with h | ⟨part, joint, rest, -, h⟩ <;> simp [h]

theorem splitAtCommas_of_spells (h : Spells ts e) : splitAtCommas 0 ts = [ts] := by
  cases h <;> simp [splitAtCommas]

theorem splitAtCommas_append_of_spells (h : Spells ts e) (joint : Bool) (rest : List Token) :
    splitAtCommas 0 (ts ++ .mark ',' joint :: rest) = ts :: splitAtCommas 0 rest := by
  cases h <;> simp [splitAtCommas]

theorem entriesOf_cons_of_ne_nil {parts : List (List Token)} (h : parts ≠ []) :
    entriesOf (part :: parts) = entryOf false part :: entriesOf parts := by
  obtain ⟨part', parts, rfl⟩ := List.exists_cons_of_ne_nil h
  rfl

theorem Spells.ne_nil (h : Spells ts e) : ts ≠ [] := by
  cases h <;> exact List.cons_ne_nil _ _

theorem entries_of_spellsList (h : SpellsList ts es) : entries ts = es := by
  induction h with
  | nil => rfl
  | @last ts e entry =>
    rw [entries, splitAtCommas_of_spells entry, entriesOf]
    simp [entry.ne_nil, entryOf_of_spells entry]
  | more entry joint rest ih =>
    rw [entries, splitAtCommas_append_of_spells entry,
      entriesOf_cons_of_ne_nil (splitAtCommas_ne_nil _ _), entryOf_of_spells entry]
    exact congrArg _ ih

theorem spellsList_of_entries (hplain : ∀ e ∈ es, e.IsPlain) (h : entries ts = es) :
    SpellsList ts es := by
  induction hn : ts.length using Nat.strongRecOn generalizing ts es with
  | ind n ih =>
    unfold entries at h
    rcases splitAtCommas_cases 0 ts with hone | ⟨part, joint, rest, rfl, hmore⟩
    · rw [hone, entriesOf] at h
      split at h
      · next hnil =>
        obtain rfl := List.isEmpty_iff.1 hnil
        subst h
        exact .nil
      · subst h
        exact .last ((entryOf_eq_iff (hplain _ (List.mem_singleton_self _))).1 rfl)
    · rw [hmore, entriesOf_cons_of_ne_nil (splitAtCommas_ne_nil _ _)] at h
      subst h
      obtain ⟨hpart, hrest⟩ := List.forall_mem_cons.1 hplain
      refine .more ((entryOf_eq_iff hpart).1 rfl) joint (ih rest.length ?_ hrest rfl rfl)
      simp at hn
      omega

/-- A text is read as a list of plain entries exactly if it is one. -/
theorem entries_eq_iff (hplain : ∀ e ∈ es, e.IsPlain) : entries ts = es ↔ SpellsList ts es :=
  ⟨spellsList_of_entries hplain, entries_of_spellsList⟩

end Source
end AggregateRouting
