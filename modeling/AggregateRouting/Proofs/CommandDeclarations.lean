import AggregateRouting.Proofs.DeclarationFaults

/-! # Commands are records with properties

The arguments of a command are read from their first token on (`CommandArguments.pairs_eq_ok_iff`,
`CommandArguments.pairs_eq_error_iff`), and give it its name or nothing
(`CommandArguments.commandName?_eq_ok_iff`). What becomes of an item that is a command is what
becomes of it as a record with properties, and the name (`command_extends_properties`). -/

namespace AggregateRouting
variable {τ : Type} {fault : DeclarationFault} {ts : List Source.Token} {name? : Option String}

namespace CommandArguments
open Source (Keyword.holds)

/-! ### Pairs of words and texts -/

/-- The tokens of words with texts, with commas between them and perhaps one at the end. -/
inductive Spells : List Source.Token → List (String × String) → Prop
  | nil : Spells [] []
  | last {word : String} (free : Keyword.holds word = false) (joint : Bool)
    (text written : String) :
    Spells [.word word, .mark '=' joint, .quoted text written] [(word, text)]
  | more {word : String} (free : Keyword.holds word = false) (joint : Bool) (text written : String)
    (joint' : Bool) {ts : List Source.Token} {pairs : List (String × String)}
    (rest : Spells ts pairs) :
    Spells (.word word :: .mark '=' joint :: .quoted text written :: .mark ',' joint' :: ts)
      ((word, text) :: pairs)

/-- What is wrong with tokens that do not start with a word, an equals sign and a text which are all
of them or have a comma after them. -/
inductive PairFault : List Source.Token → DeclarationFault → Prop
  | noWord {t : Source.Token} {ts : List Source.Token} (other : ∀ word, t ≠ .word word) :
    PairFault (t :: ts) .expectedIdentifier
  | keyword {word : String} {ts : List Source.Token} (keyword : Keyword.holds word = true) :
    PairFault (.word word :: ts) (.keyword word)
  | alone {word : String} (free : Keyword.holds word = false) :
    PairFault [.word word] .expectedEquals
  | noEquals {word : String} (free : Keyword.holds word = false) {t : Source.Token}
    {ts : List Source.Token} (other : ∀ joint, t ≠ .mark '=' joint) :
    PairFault (.word word :: t :: ts) .expectedEquals
  | noText {word : String} (free : Keyword.holds word = false) (joint : Bool) :
    PairFault [.word word, .mark '=' joint] .missingText
  | otherValue {word : String} (free : Keyword.holds word = false) (joint : Bool)
    {t : Source.Token} {ts : List Source.Token} (other : ∀ text written, t ≠ .quoted text written) :
    PairFault (.word word :: .mark '=' joint :: t :: ts) .expectedText
  | noComma {word : String} (free : Keyword.holds word = false) (joint : Bool)
    (text written : String) {t : Source.Token} {ts : List Source.Token}
    (other : ∀ joint, t ≠ .mark ',' joint) :
    PairFault (.word word :: .mark '=' joint :: .quoted text written :: t :: ts) .expectedComma

/-- What is wrong with tokens after some pairs that have commas after them. -/
inductive SyntaxFault : List Source.Token → DeclarationFault → Prop
  | here {ts : List Source.Token} {fault : DeclarationFault} (bad : PairFault ts fault) :
    SyntaxFault ts fault
  | later {word : String} (free : Keyword.holds word = false) (joint : Bool) (text written : String)
    (joint' : Bool) {ts : List Source.Token} {fault : DeclarationFault}
    (rest : SyntaxFault ts fault) :
    SyntaxFault (.word word :: .mark '=' joint :: .quoted text written :: .mark ',' joint' :: ts)
      fault

theorem pairs_of_spells {ps : List (String × String)} (h : Spells ts ps) : pairs ts = .ok ps := by
  induction h with
  | nil => rfl
  | last free joint text written => simp [pairs, free]
  | more free joint text written joint' rest ih =>
    simp [pairs, free, ih, bind, Except.bind, pure, Except.pure]

theorem spells_of_pairs {ps : List (String × String)} (h : pairs ts = .ok ps) : Spells ts ps := by
  fun_induction pairs ts generalizing ps with
  | case1 =>
    cases h
    exact .nil
  | case2 => cases h
  | case3 word joint text written free =>
    cases h
    exact .last (by simpa using free) joint text written
  | case4 => cases h
  | case5 word joint text written joint' ts free ih =>
    obtain ⟨rest, hrest, ⟨⟩⟩ := Except.bind_eq_ok_iff.1 h
    exact .more (by simpa using free) joint text written joint' (ih hrest)
  | case6 => cases h

theorem pairs_eq_ok_iff {ps : List (String × String)} : pairs ts = .ok ps ↔ Spells ts ps :=
  ⟨spells_of_pairs, pairs_of_spells⟩

theorem fault_eq_of_pairFault (h : PairFault ts fault) : CommandArguments.fault ts = fault := by
  cases h with
  | @noWord t ts other =>
    cases t with
    | word word => exact absurd rfl (other word)
    | _ => rfl
  | keyword keyword => simp [CommandArguments.fault, keyword]
  | alone free | noEquals free | noText free | otherValue free | noComma free =>
    simp_all [CommandArguments.fault]

theorem pairs_of_pairFault (h : PairFault ts fault) : pairs ts = .error fault := by
  have hfault := fault_eq_of_pairFault h
  cases h with
  | keyword keyword =>
    unfold pairs
    split <;> simp_all
  | _ =>
    rw [pairs, hfault]
    all_goals simp_all

theorem pairFault_fault (hnil : ts ≠ [])
    (hlast : ∀ word joint text written,
      ts ≠ [.word word, .mark '=' joint, .quoted text written])
    (hmore : ∀ word joint text written joint' rest,
      ts ≠ .word word :: .mark '=' joint :: .quoted text written :: .mark ',' joint' :: rest) :
    PairFault ts (CommandArguments.fault ts) := by
  unfold CommandArguments.fault
  split
  · next word ts =>
    split
    · next hkeyword => exact .keyword hkeyword
    · next hfree =>
      have hfree : Source.Keyword.holds word = false := by simpa using hfree
      split
      · exact .noText hfree _
      · next joint text written ts =>
        rcases ts with _ | ⟨t, ts⟩
        · exact absurd rfl (hlast _ _ _ _)
        · refine .noComma hfree joint text written ?_
          rintro joint' rfl
          exact hmore _ _ _ _ _ _ rfl
      · next joint ts hmissing htext =>
        rcases ts with _ | ⟨t, ts⟩
        · exact absurd rfl hmissing
        · refine .otherValue hfree joint ?_
          rintro text written rfl
          exact htext _ _ _ rfl
      · next hother =>
        rcases ts with _ | ⟨t, ts⟩
        · exact .alone hfree
        · refine .noEquals hfree ?_
          rintro joint rfl
          exact hother _ _ rfl
  · next hword =>
    rcases ts with _ | ⟨t, ts⟩
    · exact absurd rfl hnil
    · refine .noWord ?_
      rintro word rfl
      exact hword _ _ rfl

theorem syntaxFault_of_pairs (h : pairs ts = .error fault) : SyntaxFault ts fault := by
  fun_induction pairs ts with
  | case1 => cases h
  | case2 word joint text written hkeyword =>
    cases h
    exact .here (.keyword hkeyword)
  | case3 => cases h
  | case4 word joint text written joint' ts hkeyword =>
    cases h
    exact .here (.keyword hkeyword)
  | case5 word joint text written joint' ts free ih =>
    have hrest : pairs ts = .error fault := by
      simpa [Except.bind_eq_error_iff, pure, Except.pure] using h
    exact .later (by simpa using free) joint text written joint' (ih hrest)
  | case6 ts hnil hlast hmore =>
    cases h
    exact .here (pairFault_fault hnil hlast hmore)

theorem pairs_of_syntaxFault (h : SyntaxFault ts fault) : pairs ts = .error fault := by
  induction h with
  | here bad => exact pairs_of_pairFault bad
  | later free joint text written joint' rest ih => simp [pairs, free, ih, bind, Except.bind]

theorem pairs_eq_error_iff : pairs ts = .error fault ↔ SyntaxFault ts fault :=
  ⟨syntaxFault_of_pairs, pairs_of_syntaxFault⟩

/-! ### The name -/

theorem judge_eq_ok_iff {pair : String × String} {name?' : Option String} :
    judge name? pair = .ok name?'
      ↔ ∃ text, pair = ("name", text) ∧ name? = none ∧ name?' = some text := by
  obtain ⟨word, text⟩ := pair
  unfold judge
  split
  · next h =>
    obtain rfl : word = "name" := h
    cases name? <;> simp [eq_comm]
  · next h => simp [show word ≠ "name" from h]

theorem judge_eq_error_iff {pair : String × String} :
    judge name? pair = .error fault
      ↔ pair.1 ≠ "name" ∧ fault = .unknownCommandKey
        ∨ pair.1 = "name" ∧ name?.isSome = true ∧ fault = .repeatedKey "name" := by
  unfold judge
  split
  · next h =>
    cases name? with
    | none => simp [h]
    | some name => simp [h, eq_comm (a := fault)]
  · next h => simp [h, eq_comm (a := fault)]

theorem foldlM_judge_eq_ok_iff {pairs : List (String × String)} :
    pairs.foldlM judge none = .ok name?
      ↔ pairs = [] ∧ name? = none ∨ ∃ text, pairs = [("name", text)] ∧ name? = some text := by
  rcases pairs with _ | ⟨pair, _ | ⟨pair', pairs⟩⟩
  · simp [pure, Except.pure, eq_comm (a := name?)]
  · simp [Except.bind_eq_ok_iff, judge_eq_ok_iff, pure, Except.pure]
  · simp [Except.bind_eq_ok_iff, judge_eq_ok_iff]

/-- The tokens of arguments that give a command a name, or leave it that of the structure. -/
inductive Gives : List Source.Token → Option String → Prop
  | nothing : Gives [] none
  | name (joint : Bool) (text written : String) :
    Gives [.word "name", .mark '=' joint, .quoted text written] (some text)
  | comma (joint : Bool) (text written : String) (joint' : Bool) :
    Gives [.word "name", .mark '=' joint, .quoted text written, .mark ',' joint'] (some text)

theorem keyword_name : Keyword.holds "name" = false := by
  decide +kernel

theorem spells_name_iff {text : String} : Spells ts [("name", text)] ↔ Gives ts (some text) := by
  constructor
  · rintro (_ | ⟨-, joint, -, written⟩ | ⟨-, joint, -, written, joint', _ | _⟩)
    · exact .name joint text written
    · exact .comma joint text written joint'
  · rintro (_ | ⟨joint, -, written⟩ | ⟨joint, -, written, joint'⟩)
    · exact .last keyword_name joint text written
    · exact .more keyword_name joint text written joint' .nil

theorem commandName?_eq_ok_iff : commandName? ts = .ok name? ↔ Gives ts name? := by
  unfold commandName?
  simp only [Except.bind_eq_ok_iff, pairs_eq_ok_iff, foldlM_judge_eq_ok_iff]
  constructor
  · rintro ⟨_, hspelled, ⟨rfl, rfl⟩ | ⟨text, rfl, rfl⟩⟩
    · cases hspelled
      exact .nothing
    · exact spells_name_iff.1 hspelled
  · intro h
    cases name? with
    | none =>
      cases h
      exact ⟨[], .nil, .inl ⟨rfl, rfl⟩⟩
    | some text => exact ⟨_, spells_name_iff.2 h, .inr ⟨text, rfl, rfl⟩⟩

/-! ### Faults -/

/-- Why arguments are refused. All of them have to be pairs before one is judged. -/
inductive Fault (ts : List Source.Token) : DeclarationFault → Prop
  | noPairs {fault : DeclarationFault} (bad : SyntaxFault ts fault) : Fault ts fault
  | unknown {before : List (String × String)} {word text : String} {after : List (String × String)}
    (spelled : Spells ts (before ++ (word, text) :: after))
    (accepted : before = [] ∨ ∃ text, before = [("name", text)]) (other : word ≠ "name") :
    Fault ts .unknownCommandKey
  | again {text text' : String} {after : List (String × String)}
    (spelled : Spells ts (("name", text) :: ("name", text') :: after)) :
    Fault ts (.repeatedKey "name")

theorem foldlM_judge_eq_error_iff {pairs : List (String × String)} :
    pairs.foldlM judge none = .error fault
      ↔ (∃ before word text after, pairs = before ++ (word, text) :: after
          ∧ (before = [] ∨ ∃ text, before = [("name", text)]) ∧ word ≠ "name"
          ∧ fault = .unknownCommandKey)
        ∨ ∃ text text' after, pairs = ("name", text) :: ("name", text') :: after
          ∧ fault = .repeatedKey "name" := by
  rw [Except.foldlM_eq_error_iff]
  simp only [foldlM_judge_eq_ok_iff, judge_eq_error_iff]
  constructor
  · -- What is accepted before the pair is nothing, or one name.
    rintro ⟨before, ⟨word, text⟩, after, rfl, name?, hbefore, ⟨hother, rfl⟩ | ⟨rfl, hname, rfl⟩⟩
    · rcases hbefore with ⟨rfl, -⟩ | ⟨text', rfl, -⟩
      · exact .inl ⟨[], word, text, after, rfl, .inl rfl, hother, rfl⟩
      · exact .inl ⟨_, word, text, after, rfl, .inr ⟨text', rfl⟩, hother, rfl⟩
    · rcases hbefore with ⟨rfl, rfl⟩ | ⟨text', rfl, -⟩
      · cases hname
      · exact .inr ⟨text', text, after, rfl, rfl⟩
  · rintro (⟨before, word, text, after, rfl, haccepted, hother, rfl⟩ |
      ⟨text, text', after, rfl, rfl⟩)
    · rcases haccepted with rfl | ⟨text', rfl⟩
      · exact ⟨[], _, after, rfl, none, .inl ⟨rfl, rfl⟩, .inl ⟨hother, rfl⟩⟩
      · exact ⟨[_], _, after, rfl, some text', .inr ⟨text', rfl, rfl⟩, .inl ⟨hother, rfl⟩⟩
    · exact ⟨[_], _, after, rfl, some text, .inr ⟨text, rfl, rfl⟩, .inr ⟨rfl, rfl, rfl⟩⟩

theorem commandName?_eq_error_iff : commandName? ts = .error fault ↔ Fault ts fault := by
  unfold commandName?
  simp only [Except.bind_eq_error_iff, pairs_eq_error_iff, pairs_eq_ok_iff,
    foldlM_judge_eq_error_iff]
  constructor
  · rintro (hbad | ⟨_, hspelled, ⟨before, word, text, after, rfl, haccepted, hother, rfl⟩ |
      ⟨text, text', after, rfl, rfl⟩⟩)
    · exact .noPairs hbad
    · exact .unknown hspelled haccepted hother
    · exact .again hspelled
  · rintro (hbad | ⟨hspelled, haccepted, hother⟩ | hspelled)
    · exact .inl hbad
    · exact .inr ⟨_, hspelled, .inl ⟨_, _, _, _, rfl, haccepted, hother, rfl⟩⟩
    · exact .inr ⟨_, hspelled, .inr ⟨_, _, _, rfl, rfl⟩⟩

example : commandName?
      [.word "label", .mark '=', .quoted "seat" "\"seat\"", .mark ',', .word "name"]
    = .error .expectedEquals := by
  decide +kernel

end CommandArguments

/-! ### Items -/

theorem Struct.withCommand_eq_ok_iff {s : Struct τ} {x : Expansion τ} :
    s.withCommand name? = .ok x
      ↔ name?.getD s.name ≠ ""
        ∧ ∃ x₀, s.withProperties = .ok x₀
          ∧ x = { x₀ with command := some (name?.getD s.name) } := by
  unfold withCommand
  simp only [Except.bind_eq_ok_iff]
  split
  · next h => simp [h]
  · next h => simp [h, pure, Except.pure, eq_comm (a := x)]

theorem Struct.withCommand_eq_error_iff {s : Struct τ} :
    s.withCommand name? = .error fault
      ↔ s.withProperties = .error fault
        ∨ name?.getD s.name = "" ∧ (∃ x, s.withProperties = .ok x) ∧ fault = .emptyCommandName := by
  unfold withCommand
  simp only [Except.bind_eq_error_iff]
  split
  · next h => simp [h, eq_comm (a := fault)]
  · next h => simp [h, pure, Except.pure]

/-- A structure has a name, so a command gets an empty name only if that is given. -/
theorem Struct.getD_name_eq_iff {s : Struct τ} (hname : s.name ≠ "") :
    name?.getD s.name = "" ↔ name? = some "" := by
  cases name? with
  | none => simpa using hname
  | some name => simp

namespace Item
variable {item : Except DeclarationFault (Item τ)} {x : Expansion τ}

theorem expandProperties_eq_ok_iff :
    expandProperties [] item = .ok x
      ↔ ∃ s, item = .ok (.struct s) ∧ s.withProperties = .ok x := by
  unfold expandProperties
  simp only [List.isEmpty_nil, if_true, Except.bind_eq_ok_iff]
  constructor
  · rintro ⟨_ | _, rfl, s, hs, h⟩
    · cases hs
      exact ⟨_, rfl, h⟩
    · cases hs
  · rintro ⟨s, rfl, h⟩
    exact ⟨_, rfl, s, rfl, h⟩

theorem expandProperties_struct (s : Struct τ) :
    expandProperties [] (.ok (.struct s)) = s.withProperties :=
  rfl

theorem expandCommand_eq_ok_iff :
    expandCommand ts item = .ok x
      ↔ ∃ name? s, CommandArguments.commandName? ts = .ok name? ∧ item = .ok (.struct s)
        ∧ s.withCommand name? = .ok x := by
  unfold expandCommand
  simp only [Except.bind_eq_ok_iff]
  constructor
  · rintro ⟨name?, hname, _ | _, rfl, s, hs, h⟩
    · cases hs
      exact ⟨name?, _, hname, rfl, h⟩
    · cases hs
  · rintro ⟨name?, s, hname, rfl, h⟩
    exact ⟨name?, hname, _, rfl, s, rfl, h⟩

theorem expandCommand_eq_error_iff :
    expandCommand ts item = .error fault
      ↔ CommandArguments.commandName? ts = .error fault
        ∨ ∃ name?, CommandArguments.commandName? ts = .ok name?
          ∧ (item = .error fault ∨ item = .ok .other ∧ fault = .notAStruct .command
            ∨ ∃ s, item = .ok (.struct s) ∧ s.withCommand name? = .error fault) := by
  unfold expandCommand
  rw [Except.bind_eq_error_iff]
  refine or_congr_right (exists_congr fun name? => and_congr_right fun _ => ?_)
  rcases item with fault' | s | _
  · simp [bind, Except.bind]
  · simp [bind, Except.bind, struct?]
  · simp [bind, Except.bind, struct?, eq_comm]

/-- What is wrong with an item that is to be a command: its arguments, that it is no structure, what
is wrong with it as a record with properties, or that it gets an empty name. -/
inductive CommandFault (ts : List Source.Token) (item : Except DeclarationFault (Item τ)) :
    DeclarationFault → Prop
  | arguments {fault : DeclarationFault} (bad : CommandArguments.Fault ts fault) :
    CommandFault ts item fault
  | unreadable {name? : Option String} {fault : DeclarationFault}
    (gives : CommandArguments.Gives ts name?) (bad : item = .error fault) :
    CommandFault ts item fault
  | notAStruct {name? : Option String} (gives : CommandArguments.Gives ts name?)
    (other : item = .ok .other) : CommandFault ts item (.notAStruct .command)
  | properties {name? : Option String} {s : Struct τ} {fault : DeclarationFault}
    (gives : CommandArguments.Gives ts name?) (struct : item = .ok (.struct s))
    (bad : expandProperties [] item = .error fault) : CommandFault ts item fault
  | emptyName {x : Expansion τ} (gives : CommandArguments.Gives ts (some ""))
    (accepted : expandProperties [] item = .ok x) : CommandFault ts item .emptyCommandName

end Item

/-- The expansion `x` of a structure as a command goes beyond the one with properties only by a name
and by a facet for the same type. -/
structure Expansion.Extends (x x₀ : Expansion τ) (s : Struct τ) (name? : Option String) : Prop where
  eq : x = { x₀ with command := some (name?.getD s.name) }
  named : name?.getD s.name ≠ ""
  cleared : s.Cleared x.struct
  access : x₀.facets
    = [{ name := "PropertyAccess"
         target := s.parameters.applied s.name
         parameters := s.parameters.declarations
         condition := s.condition }]
  command : x.facets
    = x₀.facets ++
      [{ name := "Command"
         target := s.parameters.applied s.name
         parameters := s.parameters.declarations
         condition := s.condition }]

theorem Struct.extends_of_withCommand {s : Struct τ} {x : Expansion τ}
    (h : s.withCommand name? = .ok x) : ∃ x₀, s.withProperties = .ok x₀ ∧ x.Extends x₀ s name? := by
  obtain ⟨hname, x₀, hx₀, rfl⟩ := withCommand_eq_ok_iff.1 h
  have hcleared := cleared_of_withProperties hx₀
  have hfacet : ∀ name, x₀.struct.facet name
      = { name := name
          target := s.parameters.applied s.name
          parameters := s.parameters.declarations
          condition := s.condition } := by
    intro name
    rw [facet, hcleared.name, hcleared.parameters, hcleared.condition]
  have hcommand : x₀.command = none := by
    obtain ⟨t, -, rfl⟩ := withProperties_eq_ok_iff.1 hx₀
    rfl
  refine ⟨x₀, hx₀, rfl, hname, hcleared, ?_, ?_⟩
  · rw [Expansion.facets, hcommand, Expansion.access, hfacet]
    rfl
  · simp only [Expansion.facets, hcommand, Expansion.access, hfacet]
    rfl

namespace Item
variable {item : Except DeclarationFault (Item τ)} {x : Expansion τ}

theorem exists_expandCommand_iff (named : ∀ s, item = .ok (.struct s) → s.name ≠ "") :
    (∃ x, expandCommand ts item = .ok x)
      ↔ (∃ name?, CommandArguments.Gives ts name? ∧ name? ≠ some "")
        ∧ ∃ x, expandProperties [] item = .ok x := by
  simp only [expandCommand_eq_ok_iff, expandProperties_eq_ok_iff,
    CommandArguments.commandName?_eq_ok_iff, Struct.withCommand_eq_ok_iff]
  constructor
  · rintro ⟨_, name?, s, hgives, hs, hname, x₀, hx₀, -⟩
    exact ⟨⟨name?, hgives, fun h => hname ((Struct.getD_name_eq_iff (named s hs)).2 h)⟩,
      x₀, s, hs, hx₀⟩
  · rintro ⟨⟨name?, hgives, hname⟩, x₀, s, hs, hx₀⟩
    exact ⟨_, name?, s, hgives, hs, fun h => hname ((Struct.getD_name_eq_iff (named s hs)).1 h),
      x₀, hx₀, rfl⟩

theorem extends_of_expandCommand (h : expandCommand ts item = .ok x) :
    ∃ s name? x₀, item = .ok (.struct s) ∧ CommandArguments.Gives ts name?
      ∧ expandProperties [] item = .ok x₀ ∧ x.Extends x₀ s name? := by
  obtain ⟨name?, s, hname, hs, hx⟩ := expandCommand_eq_ok_iff.1 h
  obtain ⟨x₀, hx₀, hextends⟩ := Struct.extends_of_withCommand hx
  exact ⟨s, name?, x₀, hs, CommandArguments.commandName?_eq_ok_iff.1 hname,
    expandProperties_eq_ok_iff.2 ⟨s, hs, hx₀⟩, hextends⟩

theorem expandCommand_eq_error_iff_fault (named : ∀ s, item = .ok (.struct s) → s.name ≠ "") :
    expandCommand ts item = .error fault ↔ CommandFault ts item fault := by
  rw [expandCommand_eq_error_iff, CommandArguments.commandName?_eq_error_iff]
  simp only [CommandArguments.commandName?_eq_ok_iff, Struct.withCommand_eq_error_iff]
  constructor
  · rintro (hbad | ⟨name?, hgives, hitem | ⟨hother, rfl⟩ |
      ⟨s, hs, hbad | ⟨hname, ⟨x, hx⟩, rfl⟩⟩⟩)
    · exact .arguments hbad
    · exact .unreadable hgives hitem
    · exact .notAStruct hgives hother
    · refine .properties hgives hs ?_
      rw [hs, expandProperties_struct, hbad]
    · obtain rfl := (Struct.getD_name_eq_iff (named s hs)).1 hname
      exact .emptyName hgives (expandProperties_eq_ok_iff.2 ⟨s, hs, hx⟩)
  · rintro (hbad | ⟨hgives, hitem⟩ | ⟨hgives, hother⟩ | ⟨hgives, hs, hbad⟩ | ⟨hgives, hx⟩)
    · exact .inl hbad
    · exact .inr ⟨_, hgives, .inl hitem⟩
    · exact .inr ⟨_, hgives, .inr (.inl ⟨hother, rfl⟩)⟩
    · rw [hs, expandProperties_struct] at hbad
      exact .inr ⟨_, hgives, .inr (.inr ⟨_, hs, .inl hbad⟩)⟩
    · obtain ⟨s, hs, hx⟩ := expandProperties_eq_ok_iff.1 hx
      exact .inr ⟨some "", hgives, .inr (.inr ⟨s, hs, .inr ⟨rfl, ⟨_, hx⟩, rfl⟩⟩)⟩

end Item

/-- A command is accepted exactly if its arguments are none or one name that is not empty, and the
same item is accepted as a record with properties. It becomes what the record becomes, and has a
name. -/
theorem command_extends_properties (ts : List Source.Token)
    (item : Except DeclarationFault (Item τ))
    (named : ∀ s, item = .ok (.struct s) → s.name ≠ "") :
    ((∃ x, Item.expandCommand ts item = .ok x)
      ↔ (∃ name?, CommandArguments.Gives ts name? ∧ name? ≠ some "")
        ∧ ∃ x, Item.expandProperties [] item = .ok x)
    ∧ (∀ x, Item.expandCommand ts item = .ok x → ∃ s name? x₀, item = .ok (.struct s)
        ∧ CommandArguments.Gives ts name? ∧ Item.expandProperties [] item = .ok x₀
        ∧ x.Extends x₀ s name?)
    ∧ ∀ fault, Item.expandCommand ts item = .error fault ↔ Item.CommandFault ts item fault := by
  refine ⟨?accepted, fun x hx => ?expanded, fun fault => ?refused⟩
  case accepted => exact Item.exists_expandCommand_iff named
  case expanded => exact Item.extends_of_expandCommand hx
  case refused => exact Item.expandCommand_eq_error_iff_fault named

namespace Shop

/-- A reservation with parameters and a condition, of which the number is left out. -/
def reservation : Struct (List Source.Token) where
  visibility := [.word "pub"]
  name := "Reserve"
  parameters :=
    ⟨[⟨{ role := .lifetime, name := [.lifetime "'a"] }, true⟩,
      ⟨{ role := .type, name := [.word "T"], bound := [.word "Clone"], default := [.word "u8"] },
        false⟩]⟩
  condition := some [.word "T", .mark ':', .word "Copy"]
  fields := .named
    [{ visibility := [.word "pub"]
       name := "seat"
       type := [.mark '&', .lifetime "'a", .word "T"]
       attributes := [{ path := "deprecated", argument := .equals [.quoted "old" "\"old\""] }] },
      { name := "number", type := [.word "u32"], attributes := [propertyOptions [.word "skip"]] }]

def reservationTokens : List Source.Token :=
  [.word "pub", .word "struct", .word "Reserve", .mark '<', .lifetime "'a", .mark ',', .word "T",
    .mark ':', .word "Clone", .mark '=', .word "u8", .mark '>', .word "where", .word "T", .mark ':',
    .word "Copy", .opening .curly, .mark '#', .opening .square, .word "deprecated",
    .mark '=', .quoted "old" "\"old\"", .closing .square, .word "pub", .word "seat", .mark ':',
    .mark '&', .lifetime "'a", .word "T", .mark ',', .mark '#', .opening .square, .word "property",
    .opening .round, .word "skip", .closing .round, .closing .square, .word "number", .mark ':',
    .word "u32", .closing .curly]

/-- A command without fields and parameters. -/
def closing : Struct (List Source.Token) where
  name := "Close"
  fields := .unit

end Shop

open Shop in
/-- A reservation is read as it is written and becomes a command for the type with its parameters,
under the given name. Of a ticket with an empty name the fault of its fields is reported. -/
theorem reservation_is_a_command :
    Source.readItem reservationTokens = .ok (.struct reservation)
    ∧ (∃ x, Item.expandCommand (assigned "name" "seat.reserve" ++ [.mark ','])
          (.ok (.struct reservation)) = .ok x
      ∧ x.command = some "seat.reserve" ∧ x.struct.visibility = [.word "pub"]
      ∧ x.table.entries = [⟨"seat", "seat"⟩]
      ∧ x.facets.map (·.name) = ["PropertyAccess", "Command"]
      ∧ ∀ facet ∈ x.facets, facet.target
            = [.word "Reserve", .mark '<', .lifetime "'a", .mark ',', .word "T", .mark '>']
        ∧ facet.parameters = [[.lifetime "'a"], [.word "T", .mark ':', .word "Clone"]]
        ∧ facet.condition = some [.word "T", .mark ':', .word "Copy"])
    ∧ (∃ x, Item.expandCommand [] (.ok (.struct closing)) = .ok x
      ∧ x.command = some "Close" ∧ x.facets = [⟨"PropertyAccess", [.word "Close"], [], none⟩,
        ⟨"Command", [.word "Close"], [], none⟩])
    ∧ Item.expandCommand (assigned "name" "") (.ok (.struct ticket))
      = .error (.repeatedKey "rename")
    ∧ Item.expandCommand (assigned "label" "seat" ++ [.mark ',', .word "name"])
        (.ok (.struct ticket)) = .error .expectedEquals := by
  have hnamed : ∀ (τ : Type) (s : Struct τ), s.name ≠ "" → ∀ s',
      (Except.ok (Item.struct s) : Except DeclarationFault (Item τ)) = .ok (.struct s')
        → s'.name ≠ "" := by
    rintro τ s hs _ ⟨⟩
    exact hs
  obtain ⟨haccepted, hexpansion, -⟩ := command_extends_properties
    (assigned "name" "seat.reserve" ++ [.mark ',']) _ (hnamed _ reservation (by decide))
  obtain ⟨haccepted', hexpansion', -⟩ :=
    command_extends_properties [] _ (hnamed _ closing (by decide))
  obtain ⟨-, -, hempty⟩ := command_extends_properties (assigned "name" "") _
    (hnamed _ ticket (by decide))
  obtain ⟨-, -, hwordless⟩ := command_extends_properties
    (assigned "label" "seat" ++ [.mark ',', .word "name"]) _ (hnamed _ ticket (by decide))
  refine ⟨by decide +kernel, ?_, ?_, ?_, ?_⟩
  · obtain ⟨x, hx⟩ := haccepted.2 ⟨⟨_, .comma false _ _ false, by decide⟩, _, rfl⟩
    obtain ⟨s, name?, x₀, ⟨⟩, hgives, hx₀, hextends⟩ := hexpansion x hx
    cases hgives
    cases hx₀
    have hfacets := hextends.command
    rw [hextends.access] at hfacets
    refine ⟨x, hx, by rw [hextends.eq]; rfl, hextends.cleared.visibility, by rw [hextends.eq]; rfl,
      by rw [hfacets]; rfl, ?_⟩
    rw [hfacets]
    decide +kernel
  · obtain ⟨x, hx⟩ := haccepted'.2 ⟨⟨_, .nothing, by decide⟩, _, rfl⟩
    obtain ⟨s, name?, x₀, ⟨⟩, hgives, -, hextends⟩ := hexpansion' x hx
    cases hgives
    exact ⟨x, hx, by rw [hextends.eq]; rfl, by rw [hextends.command, hextends.access]; rfl⟩
  · exact (hempty _).2 (.properties (.name false "" _) rfl (by decide +kernel))
  · refine (hwordless _).2 (.arguments (.noPairs ?_))
    exact .later (by decide +kernel) false "seat" _ false
      (.here (.alone CommandArguments.keyword_name))

end AggregateRouting
