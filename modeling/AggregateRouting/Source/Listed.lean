/-! # Lists with commas

Elements of a list in a source text, each with whether a comma follows it there. Elements can change
their places and take their commas with them, so the list that is written may end in a comma. -/

namespace AggregateRouting.Source

structure Listed (α : Type) where
  value : α
  comma : Bool
  deriving DecidableEq

namespace Listed
variable {α β : Type}

def map (f : α → β) (e : Listed α) : Listed β :=
  ⟨f e.value, e.comma⟩

def first (p : α → Bool) (es : List (Listed α)) : List (Listed α) :=
  es.filter (p ·.value) ++ es.filter (!p ·.value)

def joined (comma : α) : List (Listed (List α)) → List α
  | [] => []
  | [e] => if e.comma then e.value ++ [comma] else e.value
  | e :: es => e.value ++ comma :: joined comma es

theorem first_perm (p : α → Bool) (es : List (Listed α)) : (first p es).Perm es :=
  List.filter_append_perm (fun e : Listed α => p e.value) es

end Listed
end AggregateRouting.Source
