import AggregateRouting.Metadata.Decode
import AggregateRouting.Proofs.ByteOrder
import AggregateRouting.Proofs.RoutingKeys

/-! # The grammar of metadata

Which JSON values the fields of metadata are read from (`Metadata.Field.Reads`), and what is wrong
with any other (`Metadata.Field.Fault`). The entries of an object are accepted exactly if each has
the key of a field and a value that the field reads; otherwise the fault is that of the least key,
by bytes, whose entry has one. Main statement: `attributes_follow_grammar`. -/

namespace AggregateRouting

/-! ### Modes -/

namespace ForwardingMode
variable {mode : ForwardingMode} {s : String} {j : Json} {e : DecodeError}

/-- A mode is spelled by its name, or by an object with the name as its one key and null under
it. -/
inductive Spelling (mode : ForwardingMode) : Json → Prop
  | name : Spelling mode (.str mode.name)
  | entry : Spelling mode (.object [(mode.name, .null)])

/-- What is wrong with a JSON value that spells no mode. Of an object the number of entries counts
before the key, and the key before what is under it. -/
inductive Misspelling : Json → DecodeError → Prop
  | kind {j : Json} (noText : ∀ s, j ≠ .str s) (noObject : ∀ entries, j ≠ .object entries) :
      Misspelling j (.invalidType j .mode)
  | name {s : String} (unknown : ∀ mode : ForwardingMode, mode.name ≠ s) :
      Misspelling (.str s) (.unknownMode s)
  | count {entries : List (String × Json)} (h : entries.length ≠ 1) :
      Misspelling (.object entries) .notOneEntry
  | key {s : String} {content : Json} (unknown : ∀ mode : ForwardingMode, mode.name ≠ s) :
      Misspelling (.object [(s, content)]) (.unknownMode s)
  | content {mode : ForwardingMode} {content : Json} (h : content ≠ .null) :
      Misspelling (.object [(mode.name, content)]) (.invalidType content .nothing)

theorem decodeName_eq_ok_iff : decodeName s = .ok mode ↔ mode.name = s := by
  rw [← ofName?_eq_some_iff, decodeName]
  cases ofName? s <;> simp

theorem decodeName_eq_error_iff :
    decodeName s = .error e ↔ (∀ mode : ForwardingMode, mode.name ≠ s) ∧ e = .unknownMode s := by
  have hnone : ofName? s = .none ↔ ∀ mode : ForwardingMode, mode.name ≠ s := by
    simp only [Option.eq_none_iff_forall_ne_some, ne_eq, ofName?_eq_some_iff]
  rw [← hnone, decodeName]
  cases ofName? s <;> simp [eq_comm]

theorem name_injective : Function.Injective name := by
  intro a b h
  have ha := ofName?_eq_some_iff.2 h
  rw [ofName?_eq_some_iff.2 rfl] at ha
  exact (Option.some.inj ha).symm

theorem ofJson_entry (s : String) (content : Json) :
    ofJson (.object [(s, content)]) = decodeName s >>= fun mode =>
      match content with
      | .null => .ok mode
      | other => .error (.invalidType other .nothing) := rfl

theorem ofJson_eq_ok_iff : ofJson j = .ok mode ↔ mode.Spelling j := by
  constructor
  · intro h
    cases j with
    | str s =>
      obtain rfl := decodeName_eq_ok_iff.1 h
      exact .name
    | object entries =>
      match entries with
      | [(s, content)] =>
        rw [ofJson_entry, Except.bind_eq_ok_iff] at h
        obtain ⟨mode', hs, h⟩ := h
        obtain rfl := decodeName_eq_ok_iff.1 hs
        cases content with
        | null =>
          cases h
          exact .entry
        | _ => cases h
      | [] => cases h
      | _ :: _ :: _ => cases h
    | _ => cases h
  · intro h
    cases h with
    | name => exact decodeName_eq_ok_iff.2 rfl
    | entry => rw [ofJson_entry, decodeName_eq_ok_iff.2 rfl]; rfl

theorem ofJson_eq_error_iff : ofJson j = .error e ↔ Misspelling j e := by
  constructor
  · intro h
    cases j with
    | str s =>
      obtain ⟨hs, rfl⟩ := decodeName_eq_error_iff.1 h
      exact .name hs
    | object entries =>
      match entries with
      | [(s, content)] =>
        rw [ofJson_entry, Except.bind_eq_error_iff] at h
        rcases h with h | ⟨mode, hs, h⟩
        · obtain ⟨hs, rfl⟩ := decodeName_eq_error_iff.1 h
          exact .key hs
        · obtain rfl := decodeName_eq_ok_iff.1 hs
          cases content with
          | null => cases h
          | _ =>
            cases h
            exact .content nofun
      | [] =>
        cases h
        exact .count (by simp)
      | _ :: _ :: _ =>
        cases h
        exact .count (by simp)
    | _ =>
      cases h
      exact .kind nofun nofun
  · intro h
    cases h with
    | kind noText noObject =>
      cases j with
      | str s => exact absurd rfl (noText s)
      | object entries => exact absurd rfl (noObject entries)
      | _ => rfl
    | name hs => exact decodeName_eq_error_iff.2 ⟨hs, rfl⟩
    | @count entries hlen =>
      match entries with
      | [_] => exact absurd rfl hlen
      | [] => rfl
      | _ :: _ :: _ => rfl
    | key hs => rw [ofJson_entry, decodeName_eq_error_iff.2 ⟨hs, rfl⟩]; rfl
    | @content mode content hc =>
      rw [ofJson_entry, decodeName_eq_ok_iff.2 rfl]
      cases content with
      | null => exact absurd rfl hc
      | _ => rfl

end ForwardingMode

/-! ### Fields -/

namespace Metadata

namespace Field

def Value : Field → Type
  | forwardCommands | forwardEvents => Bool
  | eventForwardingMode => ForwardingMode
  | eventRoutingKey => Option String

/-- What a field is that is not given: messages are forwarded, events to all children, and the key
for events is that of the model. -/
def default : (f : Field) → f.Value
  | forwardCommands | forwardEvents => true
  | eventForwardingMode => .all
  | eventRoutingKey => none

/-- A field reads a value from a JSON value: a flag from a boolean, the mode from its spelling, and
the key from a string, or from null if there is none. -/
inductive Reads : (f : Field) → Json → f.Value → Prop
  | forwardCommands (b : Bool) : Reads forwardCommands (.bool b) b
  | forwardEvents (b : Bool) : Reads forwardEvents (.bool b) b
  | mode {mode : ForwardingMode} {j : Json} (h : mode.Spelling j) : Reads eventForwardingMode j mode
  | noKey : Reads eventRoutingKey .null none
  | key (s : String) : Reads eventRoutingKey (.str s) (some s)

inductive Fault : Field → Json → DecodeError → Prop
  | forwardCommands {j : Json} (noFlag : ∀ b, j ≠ .bool b) :
      Fault forwardCommands j (.invalidType j .flag)
  | forwardEvents {j : Json} (noFlag : ∀ b, j ≠ .bool b) :
      Fault forwardEvents j (.invalidType j .flag)
  | mode {j : Json} {e : DecodeError} (h : ForwardingMode.Misspelling j e) :
      Fault eventForwardingMode j e
  | key {j : Json} (notNull : j ≠ .null) (noText : ∀ s, j ≠ .str s) :
      Fault eventRoutingKey j (.invalidType j .text)

theorem ofName?_eq_some_iff {s : String} {f : Field} : ofName? s = some f ↔ f.name = s := by
  constructor
  · intro h
    simpa using List.find?_some h
  · rintro rfl
    cases f <;> decide

theorem ofName?_eq_none_iff {s : String} : ofName? s = none ↔ ∀ f : Field, f.name ≠ s := by
  simp only [Option.eq_none_iff_forall_ne_some, ne_eq, ofName?_eq_some_iff]

theorem name_injective : Function.Injective name := by
  intro f g h
  have hf := ofName?_eq_some_iff.2 h
  rw [ofName?_eq_some_iff.2 rfl] at hf
  exact (Option.some.inj hf).symm

theorem Reads.unique {f : Field} {j : Json} {v w : f.Value} (hv : f.Reads j v) (hw : f.Reads j w) :
    v = w := by
  cases hv with
  | mode hv =>
    cases hw with
    | mode hw =>
      have h := ForwardingMode.ofJson_eq_ok_iff.2 hv
      rw [ForwardingMode.ofJson_eq_ok_iff.2 hw] at h
      exact (Except.ok.inj h).symm
  | _ =>
    cases hw
    rfl

end Field

variable {m m' : Metadata} {f g : Field} {j : Json} {e : DecodeError}

def get (m : Metadata) : (f : Field) → f.Value
  | .forwardCommands => m.forwardsCommands
  | .forwardEvents => m.forwardsEvents
  | .eventForwardingMode => m.mode
  | .eventRoutingKey => m.eventRoutingKey

def put (m : Metadata) : (f : Field) → f.Value → Metadata
  | .forwardCommands, b => { m with forwardsCommands := b }
  | .forwardEvents, b => { m with forwardsEvents := b }
  | .eventForwardingMode, mode => { m with mode := mode }
  | .eventRoutingKey, key? => { m with eventRoutingKey := key? }

@[simp] theorem get_put (m : Metadata) (f : Field) (v : f.Value) : (m.put f v).get f = v := by
  cases f <;> rfl

theorem get_put_of_ne (h : g ≠ f) (v : f.Value) : (m.put f v).get g = m.get g := by
  cases f <;> cases g <;> first | rfl | exact absurd rfl h

@[simp] theorem filter_put (m : Metadata) (f : Field) (v : f.Value) :
    (m.put f v).filter = m.filter := by
  cases f <;> rfl

theorem eq_of_get (h : ∀ f, m.get f = m'.get f) (hf : m.filter = m'.filter) : m = m' := by
  have hc := h .forwardCommands
  have he := h .forwardEvents
  have hm := h .eventForwardingMode
  have hk := h .eventRoutingKey
  cases m
  cases m'
  simp only [get] at hc he hm hk hf
  simp only [hc, he, hm, hk, hf]

theorem set_eq_ok_iff : m.set f j = .ok m' ↔ ∃ v, f.Reads j v ∧ m' = m.put f v := by
  constructor
  · intro h
    cases f with
    | forwardCommands =>
      cases j with
      | bool b =>
        cases h
        exact ⟨b, .forwardCommands b, rfl⟩
      | _ => cases h
    | forwardEvents =>
      cases j with
      | bool b =>
        cases h
        exact ⟨b, .forwardEvents b, rfl⟩
      | _ => cases h
    | eventForwardingMode =>
      obtain ⟨mode, hmode, h⟩ := Except.bind_eq_ok_iff.1 h
      cases h
      exact ⟨mode, .mode (ForwardingMode.ofJson_eq_ok_iff.1 hmode), rfl⟩
    | eventRoutingKey =>
      cases j with
      | null =>
        cases h
        exact ⟨none, .noKey, rfl⟩
      | str s =>
        cases h
        exact ⟨some s, .key s, rfl⟩
      | _ => cases h
  · rintro ⟨v, hv, rfl⟩
    cases hv with
    | mode h => exact Except.bind_eq_ok_iff.2 ⟨_, ForwardingMode.ofJson_eq_ok_iff.2 h, rfl⟩
    | _ => rfl

theorem set_eq_error_iff : m.set f j = .error e ↔ f.Fault j e := by
  constructor
  · intro h
    cases f with
    | forwardCommands =>
      cases j with
      | bool b => cases h
      | _ =>
        cases h
        exact .forwardCommands nofun
    | forwardEvents =>
      cases j with
      | bool b => cases h
      | _ =>
        cases h
        exact .forwardEvents nofun
    | eventForwardingMode =>
      rcases Except.bind_eq_error_iff.1 h with h | ⟨mode, -, h⟩
      · exact .mode (ForwardingMode.ofJson_eq_error_iff.1 h)
      · cases h
    | eventRoutingKey =>
      cases j with
      | null => cases h
      | str s => cases h
      | _ =>
        cases h
        exact .key nofun nofun
  · intro h
    cases h with
    | forwardCommands noFlag | forwardEvents noFlag =>
      cases j with
      | bool b => exact absurd rfl (noFlag b)
      | _ => rfl
    | mode h => exact Except.bind_eq_error_iff.2 (.inl (ForwardingMode.ofJson_eq_error_iff.2 h))
    | key notNull noText =>
      cases j with
      | null => exact absurd rfl notNull
      | str s => exact absurd rfl (noText s)
      | _ => rfl

/-- What is wrong with an entry of an object: no field has its key, or the field that has it does
not read its value. -/
inductive EntryFault : String × Json → DecodeError → Prop
  | unknown {name : String} {j : Json} (h : ∀ f : Field, f.name ≠ name) :
      EntryFault (name, j) (.unknownField name)
  | value {f : Field} {j : Json} {e : DecodeError} (h : f.Fault j e) : EntryFault (f.name, j) e

variable {entry : String × Json}

theorem setNamed_field (m : Metadata) (f : Field) (j : Json) :
    m.setNamed (f.name, j) = m.set f j := by
  rw [setNamed, Field.ofName?_eq_some_iff.2 rfl]

theorem setNamed_eq_ok_iff :
    m.setNamed entry = .ok m'
      ↔ ∃ f v, Field.name f = entry.1 ∧ f.Reads entry.2 v ∧ m' = m.put f v := by
  obtain ⟨name, j⟩ := entry
  constructor
  · intro h
    cases hf : Field.ofName? name with
    | none =>
      rw [setNamed, hf] at h
      cases h
    | some f =>
      obtain rfl := Field.ofName?_eq_some_iff.1 hf
      rw [setNamed_field, set_eq_ok_iff] at h
      obtain ⟨v, hv, rfl⟩ := h
      exact ⟨f, v, rfl, hv, rfl⟩
  · rintro ⟨f, v, rfl, hv, rfl⟩
    rw [setNamed_field]
    exact set_eq_ok_iff.2 ⟨v, hv, rfl⟩

theorem setNamed_eq_error_iff : m.setNamed entry = .error e ↔ EntryFault entry e := by
  obtain ⟨name, j⟩ := entry
  constructor
  · intro h
    cases hf : Field.ofName? name with
    | none =>
      rw [setNamed, hf] at h
      cases h
      exact .unknown (Field.ofName?_eq_none_iff.1 hf)
    | some f =>
      obtain rfl := Field.ofName?_eq_some_iff.1 hf
      rw [setNamed_field, set_eq_error_iff] at h
      exact .value h
  · intro h
    cases h with
    | unknown h => rw [setNamed, Field.ofName?_eq_none_iff.2 h]
    | value h => rw [setNamed_field, set_eq_error_iff.2 h]

end Metadata
end AggregateRouting
