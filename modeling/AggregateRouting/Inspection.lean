import AggregateRouting.Relation

/-! # Inspection

The members of a parent type are looked at in order. A member becomes a relation by the first kind
of the configuration that takes it, or else is passed over; the first fault ends the inspection. -/

namespace AggregateRouting.Config
variable {P : Type}

/-- The relation of a member by the first of some kinds that takes it. -/
def relationByKinds (config : Config) (declaring : EntityModel) (m : Member P) :
    List ChildKind → Logged (Except ConfigError (Option (Relation P)))
  | [] =>
    .reporting (.memberSkipped declaring.entity.name m.name m.kind?) (.ok none)
  | kind :: kinds => do
    match ← Relation.tryBuildLogged config declaring kind m with
    | .ok none => relationByKinds config declaring m kinds
    | result => return result

def relationOf (config : Config) (declaring : EntityModel) (m : Member P) :
    Logged (Except ConfigError (Option (Relation P))) :=
  config.relationByKinds declaring m config.kinds

/-- The relations of all members that some configured kind takes, in order. -/
def inspect (config : Config) (declaring : EntityModel) :
    List (Member P) → Logged (Except ConfigError (List (Relation P)))
  | [] => .quiet (.ok [])
  | m :: ms => do
    match ← config.relationOf declaring m with
    | .error e => return .error e
    | .ok relation? =>
      let rest ← config.inspect declaring ms
      return rest.map (relation?.toList ++ ·)

theorem value_inspect_cons (config : Config) (declaring : EntityModel) (m : Member P)
    (ms : List (Member P)) :
    (config.inspect declaring (m :: ms)).value
      = (config.relationOf declaring m).value.bind fun relation? =>
        (config.inspect declaring ms).value.map (relation?.toList ++ ·) := by
  rw [inspect, Logged.value_bind]
  cases (config.relationOf declaring m).value <;> rfl

theorem log_inspect_cons (config : Config) (declaring : EntityModel) (m : Member P)
    (ms : List (Member P)) :
    (config.inspect declaring (m :: ms)).log
      = (config.relationOf declaring m).log
        ++ if (config.relationOf declaring m).value.isOk then (config.inspect declaring ms).log
          else [] := by
  rw [inspect, Logged.log_bind]
  cases (config.relationOf declaring m).value <;> simp [Except.isOk, Except.toBool]

end AggregateRouting.Config
