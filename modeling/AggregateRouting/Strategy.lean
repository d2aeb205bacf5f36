import AggregateRouting.Record
import AggregateRouting.Text.SnakeCase

/-! # Property strategies

A routing key is the name of a property, perhaps in another spelling. A strategy looks for the
property that a type has under a name; a chain asks its strategies in turn, and the first answer
counts. -/

namespace AggregateRouting

/-- A way to find the property that a type has under a name. -/
abbrev Strategy := RecordType → String → Option Property

namespace Strategy

def direct : Strategy :=
  fun t name => t.property? name

/-- The property of that name in snake case, unless the name is in snake case already. -/
def snakeCase : Strategy :=
  fun t name =>
    let snake := SnakeCase.ofName name
    if snake = name then none else t.property? snake

/-- The property `target` for the one name `source`. -/
def aliased (source target : String) : Strategy :=
  fun t name => if name = source then t.property? target else none

def defaults : List Strategy :=
  [direct, snakeCase]

end Strategy

def findProperty (chain : List Strategy) (t : RecordType) (name : String) : Option Property :=
  chain.findSome? fun strategy => strategy t name

variable {t : RecordType} {name : String}

@[simp] theorem findProperty_nil : findProperty [] t name = none := rfl

theorem findProperty_cons {s : Strategy} {chain : List Strategy} :
    findProperty (s :: chain) t name = (s t name <|> findProperty chain t name) := by
  unfold findProperty
  rw [List.findSome?_cons]
  cases s t name <;> rfl

theorem findProperty_append {chain chain' : List Strategy} :
    findProperty (chain ++ chain') t name
      = (findProperty chain t name <|> findProperty chain' t name) := by
  simp only [findProperty, List.findSome?_append]
  cases List.findSome? (fun strategy => strategy t name) chain <;> rfl

end AggregateRouting
