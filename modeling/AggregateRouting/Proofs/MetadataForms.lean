import AggregateRouting.Proofs.MetadataObjects

/-! # The forms of metadata

An array of elements is read as the object that has them under the names of the fields in their
places (`Metadata.paired`), only in the order of the fields and not of the keys. So both are
accepted alike and give the same; of several faults they may report different ones. Attributes are
read as an object is, but for an empty key. Main statement: `metadata_forms_agree`. -/

namespace AggregateRouting

theorem zip_fst_sublist {α β : Type} :
    ∀ (l : List α) (l' : List β), List.Sublist ((l.zip l').map (·.1)) l
  | [], _ => by simp
  | _ :: _, [] => List.nil_sublist _
  | a :: l, _ :: l' => (zip_fst_sublist l l').cons_cons a

theorem firstBad_iff_least_index {α ε : Type} {Bad : α → ε → Prop} {l : List α} {e : ε} :
    FirstBad Bad l e
      ↔ ∃ i : Nat, (∃ a : α, l[i]? = some a ∧ Bad a e)
        ∧ ∀ i' < i, ∀ e', ¬ ∃ a : α, l[i']? = some a ∧ Bad a e' := by
  constructor
  · rintro ⟨before, a, after, rfl, hbefore, ha⟩
    refine ⟨before.length, ⟨a, by simp, ha⟩, fun i' hi' e' => ?_⟩
    rintro ⟨x, hx, hbad⟩
    rw [List.getElem?_append_left hi'] at hx
    exact hbefore x (List.mem_of_getElem? hx) e' hbad
  · rintro ⟨i, ⟨a, hi, ha⟩, hleast⟩
    obtain ⟨hlt, rfl⟩ := List.getElem?_eq_some_iff.1 hi
    refine ⟨l.take i, l[i], l.drop (i + 1), ?_, fun x hx e' hbad => ?_, ha⟩
    · rw [← List.drop_eq_getElem_cons hlt, List.take_append_drop]
    · obtain ⟨i', hi', rfl⟩ := List.mem_take_iff_getElem.1 hx
      have hlt' : i' < i := Nat.lt_of_lt_of_le hi' (Nat.min_le_left ..)
      exact hleast i' hlt' e' ⟨_, List.getElem?_eq_getElem _, hbad⟩

namespace Metadata
variable {items : List Json} {i : Nat} {f : Field} {j : Json} {m : Metadata} {e : DecodeError}

def paired (items : List Json) : List (String × Json) :=
  (Field.all.map Field.name).zip items

/-- What is wrong with the element at an index, which the field in that place does not read. -/
def FaultyAt (items : List Json) (i : Nat) (e : DecodeError) : Prop :=
  ∃ f j, Field.all[i]? = some f ∧ items[i]? = some j ∧ f.Fault j e

def FirstFaulty (items : List Json) (e : DecodeError) : Prop :=
  ∃ i, FaultyAt items i e ∧ ∀ i' < i, ∀ e', ¬ FaultyAt items i' e'

theorem nodup_paired (items : List Json) : ((paired items).map (·.1)).Nodup := by
  have hnames : (Field.all.map Field.name).Nodup := by decide
  exact hnames.sublist (zip_fst_sublist _ items)

theorem entryFault_field_iff : EntryFault (f.name, j) e ↔ f.Fault j e := by
  rw [← setNamed_eq_error_iff (m := {}), setNamed_field, set_eq_error_iff]

theorem getElem?_paired_eq_some_iff {entry : String × Json} :
    (paired items)[i]? = some entry
      ↔ ∃ f j, Field.all[i]? = some f ∧ items[i]? = some j ∧ (f.name, j) = entry := by
  rw [paired, List.getElem?_zip_eq_some]
  simp only [List.getElem?_map, Option.map_eq_some_iff]
  constructor
  · rintro ⟨⟨f, hf, hname⟩, hj⟩
    exact ⟨f, entry.2, hf, hj, Prod.ext hname rfl⟩
  · rintro ⟨f, j, hf, hj, rfl⟩
    exact ⟨⟨f, hf, rfl⟩, hj⟩

theorem faultyAt_iff :
    FaultyAt items i e ↔ ∃ entry, (paired items)[i]? = some entry ∧ EntryFault entry e := by
  simp only [getElem?_paired_eq_some_iff]
  constructor
  · rintro ⟨f, j, hf, hj, he⟩
    exact ⟨_, ⟨f, j, hf, hj, rfl⟩, entryFault_field_iff.2 he⟩
  · rintro ⟨-, ⟨f, j, hf, hj, rfl⟩, he⟩
    exact ⟨f, j, hf, hj, entryFault_field_iff.1 he⟩

theorem firstFaulty_iff : FirstFaulty items e ↔ FirstBad EntryFault (paired items) e := by
  simp only [FirstFaulty, faultyAt_iff, firstBad_iff_least_index]

theorem exists_firstFaulty_iff : (∃ e, FirstFaulty items e) ↔ ∃ i e, FaultyAt items i e := by
  simp only [firstFaulty_iff, exists_firstBad_iff, faultyAt_iff, List.mem_iff_getElem?]
  constructor
  · rintro ⟨entry, ⟨i, hi⟩, e, he⟩
    exact ⟨i, e, entry, hi, he⟩
  · rintro ⟨i, e, entry, hi, he⟩
    exact ⟨entry, ⟨i, hi⟩, e, he⟩

/-! ### Arrays -/

theorem foldlM_set_eq (items : List Json) (m : Metadata) :
    (Field.all.zip items).foldlM (fun m (field, j) => m.set field j) m
      = (paired items).foldlM setNamed m := by
  rw [paired, List.zip_map_left, List.foldlM_map]
  simp only [Prod.map, setNamed_field]
  rfl

theorem foldlM_paired_eq_error_iff :
    (paired items).foldlM setNamed m = .error e ↔ FirstFaulty items e := by
  rw [foldlM_setNamed_eq_error_iff, firstFaulty_iff]

theorem ofElements_of_length_le (h : items.length ≤ 4) :
    ofElements items = (paired items).foldlM setNamed {} := by
  rw [ofElements, foldlM_set_eq]
  have hlen : ¬ Field.all.length < items.length := Nat.not_lt.2 h
  simp only [if_neg hlen]
  exact bind_pure _

theorem ofElements_of_lt_length (h : 4 < items.length) :
    ofElements items
      = (paired items).foldlM setNamed {} >>= fun _ => .error (.tooManyElements items.length) := by
  rw [ofElements, foldlM_set_eq]
  have hlen : Field.all.length < items.length := h
  simp only [if_pos hlen]

theorem ofElements_eq_ok_iff (h : items.length ≤ 4) :
    ofElements items = .ok m ↔ ofEntries (paired items) = .ok m := by
  have hd := nodup_paired items
  rw [ofElements_of_length_le h, foldlM_setNamed_eq_ok_iff hd, ofEntries_eq_ok_iff hd]

theorem ofElements_eq_error_iff (h : items.length ≤ 4) :
    ofElements items = .error e ↔ FirstFaulty items e := by
  rw [ofElements_of_length_le h, foldlM_paired_eq_error_iff]

theorem ofElements_ne_ok (h : 4 < items.length) : ofElements items ≠ .ok m := by
  rw [ofElements_of_lt_length h]
  intro hok
  obtain ⟨_, -, herr⟩ := Except.bind_eq_ok_iff.1 hok
  cases herr

theorem ofElements_eq_error_iff_of_lt_length (h : 4 < items.length) :
    ofElements items = .error e ↔ FirstFaulty items e
      ∨ (∀ i e', ¬ FaultyAt items i e') ∧ e = .tooManyElements items.length := by
  have hok : (∃ m, (paired items).foldlM setNamed {} = .ok m) ↔ ∀ i e', ¬ FaultyAt items i e' := by
    rw [Except.exists_eq_ok_iff]
    simp only [foldlM_paired_eq_error_iff, exists_firstFaulty_iff, not_exists]
  rw [ofElements_of_lt_length h, Except.bind_eq_error_iff, foldlM_paired_eq_error_iff, ← hok,
    exists_and_right, Except.error.injEq, eq_comm]

/-! ### Objects -/

theorem dropEmptyKey_eq (m : Metadata) :
    m.dropEmptyKey
      = { m with
          eventRoutingKey := if m.eventRoutingKey = some "" then none else m.eventRoutingKey } := by
  unfold dropEmptyKey
  split <;> rfl

/-- The order of keys is not that of the fields: the mode comes first, then the key for events. -/
theorem ofEntries_paired_eq_error_iff :
    ofEntries (paired items) = .error e
      ↔ ∃ i f, Field.all[i]? = some f ∧ FaultyAt items i e
        ∧ ∀ i' f', Field.all[i']? = some f' → Utf8.bytes f'.name < Utf8.bytes f.name →
          ∀ e', ¬ FaultyAt items i' e' := by
  rw [ofEntries_eq_error_iff_firstBad, firstBad_sortByKey_iff (nodup_paired items)]
  simp only [List.mem_iff_getElem?, faultyAt_iff]
  constructor
  · rintro ⟨entry, ⟨i, hi⟩, hfault, hleast⟩
    obtain ⟨f, j, hf, hj, rfl⟩ := getElem?_paired_eq_some_iff.1 hi
    refine ⟨i, f, hf, ⟨_, hi, hfault⟩, fun i' f' hf' hlt e' => ?_⟩
    rintro ⟨entry', hi', hfault'⟩
    obtain ⟨f'', j', hf'', -, rfl⟩ := getElem?_paired_eq_some_iff.1 hi'
    obtain rfl : f' = f'' := Option.some.inj (hf'.symm.trans hf'')
    exact hleast _ ⟨i', hi'⟩ hlt e' hfault'
  · rintro ⟨i, f, hf, ⟨entry, hi, hfault⟩, hleast⟩
    obtain ⟨f', j, hf', hj, rfl⟩ := getElem?_paired_eq_some_iff.1 hi
    obtain rfl : f = f' := Option.some.inj (hf.symm.trans hf')
    refine ⟨_, ⟨i, hi⟩, hfault, ?_⟩
    rintro entry' ⟨i', hi'⟩ hlt e' hfault'
    obtain ⟨g, j', hg, -, rfl⟩ := getElem?_paired_eq_some_iff.1 hi'
    exact hleast i' g hg hlt e' ⟨_, hi', hfault'⟩

theorem array_eq_object_of_one_faulty (h : items.length ≤ 4)
    (hone : ∀ i i' e e', FaultyAt items i e → FaultyAt items i' e' → i = i') :
    ofJson (.array items) = ofJson (.object (paired items)) := by
  change ofElements items = ofEntries (paired items)
  cases hr : ofElements items with
  | ok m => exact ((ofElements_eq_ok_iff h).1 hr).symm
  | error e =>
    obtain ⟨i, hfault, -⟩ := (ofElements_eq_error_iff h).1 hr
    obtain ⟨f, -, hf, -⟩ := id hfault
    symm
    refine ofEntries_paired_eq_error_iff.2 ⟨i, f, hf, hfault, fun i' f' hf' hlt e' hfault' => ?_⟩
    obtain rfl := hone i i' e e' hfault hfault'
    obtain rfl : f = f' := Option.some.inj (hf.symm.trans hf')
    exact List.lt_irrefl _ hlt

end Metadata

open Metadata in
/-- An array of at most four elements and the object with them under the names of the fields are
accepted alike and give the same. Of several faults the array reports the first one among the
fields, and the object the one whose key is least. -/
theorem metadata_forms_agree :
    (∀ items : List Json, items.length ≤ 4 →
      (∀ m, ofJson (.array items) = .ok m ↔ ofJson (.object (paired items)) = .ok m)
      ∧ (∀ e, ofJson (.array items) = .error e ↔ FirstFaulty items e)
      ∧ (∀ e, ofJson (.object (paired items)) = .error e
          ↔ ∃ i f, Metadata.Field.all[i]? = some f ∧ FaultyAt items i e
            ∧ ∀ i' f', Metadata.Field.all[i']? = some f' → Utf8.bytes f'.name < Utf8.bytes f.name →
              ∀ e', ¬ FaultyAt items i' e')
      ∧ ((∀ i i' e e', FaultyAt items i e → FaultyAt items i' e' → i = i') →
          ofJson (.array items) = ofJson (.object (paired items))))
    ∧ (∀ items : List Json, 4 < items.length →
      (∀ m, ofJson (.array items) ≠ .ok m)
      ∧ ∀ e, ofJson (.array items) = .error e
          ↔ FirstFaulty items e
            ∨ (∀ i e', ¬ FaultyAt items i e') ∧ e = .tooManyElements items.length)
    ∧ ∀ entries : List (String × Json),
      (∀ e, ofAttributes entries = .error e ↔ ofJson (.object entries) = .error e)
      ∧ ∀ m, ofAttributes entries = .ok m
          ↔ ∃ m', ofJson (.object entries) = .ok m'
            ∧ m = { m' with
                eventRoutingKey :=
                  if m'.eventRoutingKey = some "" then none else m'.eventRoutingKey } := by
  refine ⟨fun items h => ⟨fun m => ofElements_eq_ok_iff h, fun e => ofElements_eq_error_iff h,
      fun e => ofEntries_paired_eq_error_iff, array_eq_object_of_one_faulty h⟩,
    fun items h => ⟨fun m => ofElements_ne_ok h, fun e => ofElements_eq_error_iff_of_lt_length h⟩,
    fun entries => ⟨fun e => ofAttributes_eq_error_iff, fun m => ?_⟩⟩
  rw [ofAttributes_eq_ok_iff]
  refine exists_congr fun m' => and_congr_right fun _ => ?_
  rw [dropEmptyKey_eq, eq_comm]

namespace Shop

def faultyElements : List Json :=
  [.null, .bool true, .int 3]

def oneFaultyElement : List Json :=
  [.bool true, .int 0]

def fourElements : List Json :=
  [.bool true, .bool false, .str "NONE", .str ""]

def fiveElements : List Json :=
  [.bool true, .bool false, .str "NONE", .null, .null]

end Shop

open Shop Metadata in
/-- Of two faults the array reports that of the flag, which comes first, and the object that of the
mode, whose key is the least. A fault that is alone is reported by both. -/
theorem flag_or_mode_is_reported :
    ofJson (.array faultyElements) = .error (.invalidType .null .flag)
    ∧ ofJson (.object (paired faultyElements)) = .error (.invalidType (.int 3) .mode)
    ∧ ofJson (.array oneFaultyElement) = ofJson (.object (paired oneFaultyElement))
    ∧ ofJson (.array fiveElements) = .error (.tooManyElements 5)
    ∧ ofJson (.array fourElements)
      = .ok { forwardsCommands := true, forwardsEvents := false, mode := .none,
              eventRoutingKey := some "" }
    ∧ ofAttributes (paired fourElements)
      = .ok { forwardsCommands := true, forwardsEvents := false, mode := .none,
              eventRoutingKey := none } := by
  obtain ⟨hshort, hlong, hattributes⟩ := metadata_forms_agree
  obtain ⟨haccepted, -⟩ := hshort fourElements (by decide)
  obtain ⟨-, hread⟩ := hattributes (paired fourElements)
  have hfour : ofJson (.object (paired fourElements))
      = .ok { forwardsCommands := true, forwardsEvents := false, mode := .none,
              eventRoutingKey := some "" } := rfl
  obtain ⟨-, harray, hobject, -⟩ := hshort faultyElements (by decide)
  obtain ⟨-, -, -, hsame⟩ := hshort oneFaultyElement (by decide)
  have hflag : FaultyAt faultyElements 0 (.invalidType .null .flag) :=
    ⟨.forwardCommands, .null, rfl, rfl, .forwardCommands nofun⟩
  have hmode : FaultyAt faultyElements 2 (.invalidType (.int 3) .mode) :=
    ⟨.eventForwardingMode, .int 3, rfl, rfl, .mode (.kind nofun nofun)⟩
  have hone : ∀ i e, FaultyAt oneFaultyElement i e → i = 1 := by
    rintro i e ⟨f, j, hf, hj, hfault⟩
    match i with
    | 0 =>
      cases hf
      cases hj
      cases hfault with
      | forwardCommands noFlag => exact absurd rfl (noFlag true)
    | 1 => rfl
    | _ + 2 => cases hj
  refine ⟨(harray _).2 ⟨0, hflag, fun i hi => absurd hi (Nat.not_lt_zero i)⟩,
    (hobject _).2 ⟨2, .eventForwardingMode, rfl, hmode, fun i f _ hlt => ?_⟩,
    hsame fun i i' e e' h h' => (hone i e h).trans (hone i' e' h').symm,
    ((hlong fiveElements (by decide)).2 _).2 (.inr ⟨?_, rfl⟩), (haccepted _).2 hfour,
    (hread _).2 ⟨_, hfour, by rw [if_pos rfl]⟩⟩
  · rw [Utf8.bytes_lt_iff] at hlt
    have hleast : ∀ f : Metadata.Field, ¬ f.name < Metadata.Field.eventForwardingMode.name := by
      intro f
      cases f <;> decide
    exact absurd hlt (hleast f)
  · have hreadable : ∀ entry ∈ paired fiveElements, Readable entry :=
      List.forall_mem_cons.2 ⟨⟨.forwardCommands, true, rfl, .forwardCommands true⟩,
        List.forall_mem_cons.2 ⟨⟨.forwardEvents, false, rfl, .forwardEvents false⟩,
          List.forall_mem_cons.2 ⟨⟨.eventForwardingMode, ForwardingMode.none, rfl, .mode .name⟩,
            List.forall_mem_singleton.2 ⟨.eventRoutingKey, none, rfl, .noKey⟩⟩⟩⟩
    intro i e hfault
    obtain ⟨entry, hi, he⟩ := faultyAt_iff.1 hfault
    exact readable_iff.1 (hreadable entry (List.mem_of_getElem? hi)) e he

end AggregateRouting
