import AggregateRouting.Member

/-! # The log

What is reported while relations are built and messages routed. The log is part of a result, so that
an outcome and what was reported on the way to it can be stated together. -/

namespace AggregateRouting

inductive LogEntry
  | relationCreated (member : MemberId) (kind : ChildKind) (childType : String)
      (forwardsCommands : Bool) (mode : ForwardingMode) (routedCommands : Nat)
  | memberSkipped (declaringType member : String) (kind? : Option ChildKind)
  | commandNotHandled (member : MemberId) (command : String)
  | noChildMatches (member : MemberId) (command : String) (value : RoutingValue)
  | eventWithoutValue (member : MemberId) (event routingKey : String)
  deriving DecidableEq

namespace LogEntry

inductive Level
  | debug
  | trace
  deriving DecidableEq

def level : LogEntry → Level
  | relationCreated .. | memberSkipped .. => .debug
  | commandNotHandled .. | noChildMatches .. | eventWithoutValue .. => .trace

def message : LogEntry → String
  | relationCreated .. => "child entity relation created"
  | memberSkipped .. => "member skipped: not a child entity member"
  | commandNotHandled .. => "command not handled by child entity"
  | noChildMatches .. => "no child entity matches routing value"
  | eventWithoutValue .. => "event carries no routing value"

end LogEntry

/-- A value, and what was reported while it was made, in order. -/
structure Logged (α : Type) where
  value : α
  log : List LogEntry

namespace Logged
variable {α β : Type}

def quiet (a : α) : Logged α :=
  ⟨a, []⟩

def reporting (entry : LogEntry) (a : α) : Logged α :=
  ⟨a, [entry]⟩

instance : Monad Logged where
  pure := quiet
  bind x f := ⟨(f x.value).value, x.log ++ (f x.value).log⟩

@[simp] theorem value_quiet (a : α) : (quiet a).value = a := rfl
@[simp] theorem log_quiet (a : α) : (quiet a).log = [] := rfl
@[simp] theorem value_pure (a : α) : (pure a : Logged α).value = a := rfl
@[simp] theorem log_pure (a : α) : (pure a : Logged α).log = [] := rfl
@[simp] theorem value_reporting (entry : LogEntry) (a : α) : (reporting entry a).value = a := rfl
@[simp] theorem log_reporting (entry : LogEntry) (a : α) : (reporting entry a).log = [entry] := rfl

@[simp] theorem value_bind (x : Logged α) (f : α → Logged β) :
    (x >>= f).value = (f x.value).value := rfl

@[simp] theorem log_bind (x : Logged α) (f : α → Logged β) :
    (x >>= f).log = x.log ++ (f x.value).log := rfl

@[simp] theorem value_map (f : α → β) (x : Logged α) : (f <$> x).value = f x.value := rfl

@[simp] theorem log_map (f : α → β) (x : Logged α) : (f <$> x).log = x.log :=
  List.append_nil _

instance : LawfulMonad Logged :=
  LawfulMonad.mk' Logged
    (fun x => by
      show Logged.mk x.value (x.log ++ []) = x
      rw [List.append_nil])
    (fun _ _ => rfl)
    (fun x f g => by
      show Logged.mk _ _ = Logged.mk _ _
      simp only [value_bind, log_bind, List.append_assoc])

end Logged
end AggregateRouting
