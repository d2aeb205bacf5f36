import AggregateRouting.Proofs.MetadataGrammar

/-! # Metadata from the entries of an object

The entries are read one after the other in the order of their keys. What is read has what the
entries give and is as before in any other field (`Metadata.Filled`), in whatever order they are
read; but the order decides which fault is met first (`FirstBad`). Main statement:
`attributes_follow_grammar`. -/

namespace AggregateRouting

/-! ### The first fault of a list -/

section FirstBad
variable {α β ε : Type} {Bad : α → ε → Prop} {l : List α} {a : α} {e : ε}

/-- What is bad about the first entry of a list about which anything is. -/
def FirstBad (Bad : α → ε → Prop) (l : List α) (e : ε) : Prop :=
  ∃ before a after, l = before ++ a :: after ∧ (∀ x ∈ before, ∀ e', ¬ Bad x e') ∧ Bad a e

theorem not_firstBad_nil : ¬ FirstBad Bad [] e := by
  rintro ⟨before, a, after, h, -, -⟩
  simp at h

theorem firstBad_cons :
    FirstBad Bad (a :: l) e ↔ Bad a e ∨ (∀ e', ¬ Bad a e') ∧ FirstBad Bad l e := by
  constructor
  · rintro ⟨before, x, after, hl, hbefore, hx⟩
    cases before with
    | nil =>
      cases hl
      exact .inl hx
    | cons y before =>
      cases hl
      obtain ⟨ha, hbefore⟩ := List.forall_mem_cons.1 hbefore
      exact .inr ⟨ha, before, x, after, rfl, hbefore, hx⟩
  · rintro (ha | ⟨ha, before, x, after, rfl, hbefore, hx⟩)
    · exact ⟨[], a, l, rfl, nofun, ha⟩
    · exact ⟨a :: before, x, after, rfl, List.forall_mem_cons.2 ⟨ha, hbefore⟩, hx⟩

theorem exists_firstBad_iff : (∃ e, FirstBad Bad l e) ↔ ∃ a ∈ l, ∃ e, Bad a e := by
  induction l with
  | nil => simp [not_firstBad_nil]
  | cons a l ih =>
    simp only [firstBad_cons, exists_or, exists_and_left, ih, List.exists_mem_cons_iff]
    by_cases ha : ∃ e, Bad a e
    · simp [ha]
    · simp [not_exists.1 ha]

theorem foldlM_eq_error_iff {f : β → α → Except ε β} (hf : ∀ b a e, f b a = .error e ↔ Bad a e)
    (b : β) : l.foldlM f b = .error e ↔ FirstBad Bad l e := by
  induction l generalizing b with
  | nil => simp [not_firstBad_nil, pure, Except.pure]
  | cons a l ih =>
    rw [List.foldlM_cons, Except.bind_eq_error_iff, firstBad_cons, hf]
    refine or_congr_right ?_
    constructor
    · rintro ⟨b', hb', h⟩
      refine ⟨fun e' ha => ?_, (ih b').1 h⟩
      rw [(hf b a e').2 ha] at hb'
      cases hb'
    · rintro ⟨ha, h⟩
      cases hb : f b a with
      | error e' => exact absurd ((hf b a e').1 hb) (ha e')
      | ok b' => exact ⟨b', rfl, (ih b').2 h⟩

/-- In the order of distinct keys the first fault is that of the least key which has one. -/
theorem firstBad_sortByKey_iff {entries : List (String × α)} {Bad : String × α → ε → Prop}
    (hd : (entries.map (·.1)).Nodup) :
    FirstBad Bad (Json.sortByKey entries) e
      ↔ ∃ entry ∈ entries, Bad entry e ∧ ∀ entry' ∈ entries,
          Utf8.bytes entry'.1 < Utf8.bytes entry.1 → ∀ e', ¬ Bad entry' e' := by
  have hperm := Json.sortByKey_perm entries
  have hsorted := Json.pairwise_sortByKey entries
  have hnodup : ((Json.sortByKey entries).map (·.1)).Nodup := (hperm.map _).nodup_iff.2 hd
  simp only [Utf8.bytes_lt_iff, ← hperm.mem_iff]
  generalize Json.sortByKey entries = sorted at *
  constructor
  · rintro ⟨before, entry, after, rfl, hbefore, hbad⟩
    refine ⟨entry, by simp, hbad, fun entry' hmem hlt => ?_⟩
    rcases List.mem_append.1 hmem with hmem | hmem
    · exact hbefore entry' hmem
    · have hafter := (List.pairwise_append.1 hsorted).2.1
      rcases List.mem_cons.1 hmem with rfl | hmem
      · exact absurd hlt (String.lt_irrefl _)
      · exact absurd hlt (String.not_lt.2 ((List.pairwise_cons.1 hafter).1 entry' hmem))
  · rintro ⟨entry, hmem, hbad, hleast⟩
    obtain ⟨before, after, rfl⟩ := List.append_of_mem hmem
    refine ⟨before, entry, after, rfl, fun entry' hmem' => ?_, hbad⟩
    have hle := (List.pairwise_append.1 hsorted).2.2 entry' hmem' entry (List.mem_cons_self ..)
    have hne : entry'.1 ≠ entry.1 := by
      rw [List.map_append, List.nodup_append] at hnodup
      exact hnodup.2.2 _ (List.mem_map_of_mem hmem') _ (by simp)
    exact hleast entry' (by simp [hmem']) (lt_of_le_of_ne hle hne)

end FirstBad

namespace Metadata
variable {m m' : Metadata} {entries entries' : List (String × Json)} {e : DecodeError}

/-! ### What the entries give -/

def Readable (entry : String × Json) : Prop :=
  ∃ (f : Field) (v : f.Value), f.name = entry.1 ∧ f.Reads entry.2 v

/-- The metadata `m'` has what the entries give, and is like `m` in any other field. -/
structure Filled (m : Metadata) (entries : List (String × Json)) (m' : Metadata) : Prop where
  given : ∀ entry ∈ entries, ∃ f : Field, f.name = entry.1 ∧ f.Reads entry.2 (m'.get f)
  kept : ∀ f : Field, f.name ∉ entries.map (·.1) → m'.get f = m.get f
  filter : m'.filter = m.filter

theorem Filled.of_perm (h : Filled m entries m') (hp : entries.Perm entries') :
    Filled m entries' m' where
  given := fun entry hmem => h.given entry (hp.mem_iff.2 hmem)
  kept := fun f hf => h.kept f fun hmem => hf ((hp.map _).mem_iff.1 hmem)
  filter := h.filter

/-- What reading the entries one after the other makes of the metadata so far. No two entries are of
the same field, so what one of them gives stays. -/
theorem foldlM_setNamed_eq_ok_iff (hd : (entries.map (·.1)).Nodup) :
    entries.foldlM setNamed m = .ok m' ↔ Filled m entries m' := by
  induction entries generalizing m with
  | nil =>
    constructor
    · rintro ⟨⟩
      exact ⟨nofun, fun _ _ => rfl, rfl⟩
    · intro h
      obtain rfl : m = m' := eq_of_get (fun f => (h.kept f List.not_mem_nil).symm) h.filter.symm
      rfl
  | cons entry entries ih =>
    obtain ⟨name, j⟩ := entry
    rw [List.map_cons, List.nodup_cons] at hd
    obtain ⟨hfresh, hd⟩ := hd
    simp only [List.foldlM_cons, Except.bind_eq_ok_iff, ih hd, setNamed_eq_ok_iff]
    constructor
    · rintro ⟨-, ⟨f, v, rfl, hv, rfl⟩, h⟩
      have hf : m'.get f = v := by rw [h.kept f hfresh, get_put]
      refine ⟨List.forall_mem_cons.2 ⟨⟨f, rfl, ?_⟩, h.given⟩, fun g hg => ?_, ?_⟩
      · rw [hf]
        exact hv
      · rw [List.map_cons, List.mem_cons, not_or] at hg
        rw [h.kept g hg.2, get_put_of_ne fun hgf => hg.1 (congrArg Field.name hgf)]
      · rw [h.filter, filter_put]
    · intro h
      obtain ⟨⟨f, rfl, hv⟩, hgiven⟩ := List.forall_mem_cons.1 h.given
      refine ⟨_, ⟨f, _, rfl, hv, rfl⟩, hgiven, fun g hg => ?_, ?_⟩
      · by_cases hgf : g = f
        · subst hgf
          rw [get_put]
        · rw [get_put_of_ne hgf]
          refine h.kept g fun hmem => ?_
          rcases List.mem_cons.1 hmem with hname | hmem
          · exact hgf (Field.name_injective hname)
          · exact hg hmem
      · rw [filter_put, h.filter]

theorem ofEntries_eq_ok_iff (hd : (entries.map (·.1)).Nodup) :
    ofEntries entries = .ok m ↔ Filled {} entries m := by
  have hperm := Json.sortByKey_perm entries
  rw [ofEntries, foldlM_setNamed_eq_ok_iff ((hperm.map _).nodup_iff.2 hd)]
  exact ⟨fun h => h.of_perm hperm, fun h => h.of_perm hperm.symm⟩

theorem foldlM_setNamed_eq_error_iff :
    entries.foldlM setNamed m = .error e ↔ FirstBad EntryFault entries e := by
  have hstep (m : Metadata) (entry : String × Json) (e : DecodeError) :
      setNamed m entry = .error e ↔ EntryFault entry e := setNamed_eq_error_iff
  exact foldlM_eq_error_iff hstep m

theorem ofEntries_eq_error_iff_firstBad :
    ofEntries entries = .error e ↔ FirstBad EntryFault (Json.sortByKey entries) e :=
  foldlM_setNamed_eq_error_iff

theorem readable_iff {entry : String × Json} : Readable entry ↔ ∀ e, ¬ EntryFault entry e := by
  constructor
  · rintro ⟨f, v, hf, hv⟩ e he
    have hok : setNamed {} entry = .ok (put {} f v) := setNamed_eq_ok_iff.2 ⟨f, v, hf, hv, rfl⟩
    rw [setNamed_eq_error_iff.2 he] at hok
    cases hok
  · intro hno
    cases h : setNamed {} entry with
    | error e => exact absurd (setNamed_eq_error_iff.1 h) (hno e)
    | ok m =>
      obtain ⟨f, v, hf, hv, -⟩ := setNamed_eq_ok_iff.1 h
      exact ⟨f, v, hf, hv⟩

theorem exists_ofEntries_eq_ok_iff :
    (∃ m, ofEntries entries = .ok m) ↔ ∀ entry ∈ entries, Readable entry := by
  simp only [Except.exists_eq_ok_iff, ofEntries_eq_error_iff_firstBad, exists_firstBad_iff,
    (Json.sortByKey_perm entries).mem_iff, readable_iff, not_exists, not_and]

/-! ### Attributes -/

/-- What a value of a field counts as in attributes, where an empty key is none. -/
def Field.cleared : (f : Field) → f.Value → f.Value
  | forwardCommands, b => b
  | forwardEvents, b => b
  | eventForwardingMode, mode => mode
  | eventRoutingKey, (key? : Option String) => if key? = some "" then none else key?

theorem get_dropEmptyKey (m : Metadata) (f : Field) :
    m.dropEmptyKey.get f = f.cleared (m.get f) := by
  unfold dropEmptyKey
  split
  next h =>
    cases f with
    | eventRoutingKey => exact (if_pos h).symm
    | _ => rfl
  next h =>
    cases f with
    | eventRoutingKey => exact (if_neg h).symm
    | _ => rfl

theorem filter_dropEmptyKey (m : Metadata) : m.dropEmptyKey.filter = m.filter := by
  unfold dropEmptyKey
  split <;> rfl

theorem get_default (f : Field) : ({} : Metadata).get f = f.default := by
  cases f <;> rfl

theorem Field.cleared_default (f : Field) : f.cleared f.default = f.default := by
  cases f <;> rfl

theorem ofAttributes_eq_ok_iff :
    ofAttributes entries = .ok m ↔ ∃ m', ofEntries entries = .ok m' ∧ m'.dropEmptyKey = m :=
  Except.map_eq_ok_iff

theorem ofAttributes_eq_error_iff :
    ofAttributes entries = .error e ↔ ofEntries entries = .error e :=
  Except.map_eq_error_iff

theorem exists_ofAttributes_eq_ok_iff :
    (∃ m, ofAttributes entries = .ok m) ↔ ∃ m, ofEntries entries = .ok m := by
  simp [ofAttributes_eq_ok_iff]

end Metadata

open Metadata in
/-- Attributes are accepted exactly if each entry has the key of a field that reads its value.
Otherwise the fault is that of the entry which has one under the key that is least by its bytes. -/
theorem attributes_follow_grammar (entries : List (String × Json))
    (hd : (entries.map (·.1)).Nodup) :
    ((∃ m, ofAttributes entries = .ok m)
        ↔ ∀ entry ∈ entries,
          ∃ (f : Metadata.Field) (v : f.Value), f.name = entry.1 ∧ f.Reads entry.2 v)
    ∧ (∀ m, ofAttributes entries = .ok m →
        (∀ (f : Metadata.Field) (j : Json) (v : f.Value), (f.name, j) ∈ entries → f.Reads j v →
          m.get f = f.cleared v)
        ∧ (∀ f : Metadata.Field, f.name ∉ entries.map (·.1) → m.get f = f.default)
        ∧ m.filter = none)
    ∧ ∀ e, ofAttributes entries = .error e
        ↔ ∃ entry ∈ entries, EntryFault entry e ∧ ∀ entry' ∈ entries,
            Utf8.bytes entry'.1 < Utf8.bytes entry.1 → ∀ e', ¬ EntryFault entry' e' := by
  refine ⟨exists_ofAttributes_eq_ok_iff.trans exists_ofEntries_eq_ok_iff, fun m hm => ?_,
    fun e => ?_⟩
  · obtain ⟨m', hm', rfl⟩ := ofAttributes_eq_ok_iff.1 hm
    have hfilled := (ofEntries_eq_ok_iff hd).1 hm'
    refine ⟨fun f j v hmem hv => ?_, fun f hf => ?_, ?_⟩
    · obtain ⟨g, hg, hv'⟩ := hfilled.given _ hmem
      obtain rfl := Metadata.Field.name_injective hg
      rw [get_dropEmptyKey, hv'.unique hv]
    · rw [get_dropEmptyKey, hfilled.kept f hf, get_default, Metadata.Field.cleared_default]
    · rw [filter_dropEmptyKey, hfilled.filter]
  · rw [ofAttributes_eq_error_iff, ofEntries_eq_error_iff_firstBad, firstBad_sortByKey_iff hd]

namespace Shop

def attributes : List (String × Json) :=
  [("forwardEvents", .bool false), ("eventRoutingKey", .str ""),
    ("eventForwardingMode", .object [("ROUTING_KEY", .null)])]

def faultyAttributes : List (String × Json) :=
  [("forwardsCommands", .null), ("forwardCommands", .str "yes"),
    ("eventForwardingMode", .object [("ALL", .null), ("NONE", .null)])]

end Shop

open Shop Metadata in
/-- Of the accepted attributes the empty key comes to nothing and commands are forwarded by default;
of the faulty ones the two modes are reported. -/
theorem two_modes_are_reported :
    (∃ m, ofAttributes attributes = .ok m ∧ m.forwardsCommands = true ∧ m.forwardsEvents = false
      ∧ m.mode = .routingKey ∧ m.eventRoutingKey = none ∧ m.filter = none)
    ∧ ofAttributes faultyAttributes = .error .notOneEntry := by
  obtain ⟨haccepted, hvalues, -⟩ := attributes_follow_grammar attributes (by decide)
  obtain ⟨-, -, herror⟩ := attributes_follow_grammar faultyAttributes (by decide)
  have hmode : Metadata.Field.eventForwardingMode.Reads (.object [("ROUTING_KEY", .null)])
      .routingKey := .mode .entry
  constructor
  · obtain ⟨m, hm⟩ := haccepted.2 <| List.forall_mem_cons.2 ⟨⟨_, _, rfl, .forwardEvents false⟩,
      List.forall_mem_cons.2 ⟨⟨_, _, rfl, .key ""⟩, List.forall_mem_singleton.2 ⟨_, _, rfl, hmode⟩⟩⟩
    obtain ⟨hgiven, hdefault, hfilter⟩ := hvalues m hm
    refine ⟨m, hm, ?_, ?_, ?_, ?_, hfilter⟩
    · exact hdefault .forwardCommands (by decide)
    · exact hgiven .forwardEvents _ false (.head _) (.forwardEvents false)
    · exact hgiven .eventForwardingMode _ _ (.tail _ (.tail _ (.head _))) hmode
    · exact hgiven .eventRoutingKey _ (some "") (.tail _ (.head _)) (.key "")
  · have hcount : EntryFault (Metadata.Field.eventForwardingMode.name,
        .object [("ALL", .null), ("NONE", .null)]) .notOneEntry :=
      .value (.mode (.count (by decide)))
    refine (herror _).2 ⟨_, .tail _ (.tail _ (.head _)), hcount, fun entry hmem hlt => ?_⟩
    rw [Utf8.bytes_lt_iff] at hlt
    have hleast : ∀ name ∈ faultyAttributes.map (·.1),
        ¬ name < Metadata.Field.eventForwardingMode.name := by decide
    exact absurd hlt (hleast _ (List.mem_map_of_mem hmem))

end AggregateRouting
