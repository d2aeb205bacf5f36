import AggregateRouting.Decimal.Shortest
import AggregateRouting.Text.Outline

/-! # JSON values

Numbers are integers or floating-point numbers, as they were written. The entries of an object keep
their order and have distinct keys. -/

namespace AggregateRouting

inductive Json
  | null
  | bool (b : Bool)
  | int (i : Int)
  | float (x : Float)
  | str (s : String)
  | array (items : List Json)
  | object (entries : List (String × Json))
  deriving Inhabited

namespace Json

/-- Numbers have an exponent from ten to the sixteenth on and below a hundred-thousandth. -/
def floatLayout : Decimal.Layout where
  least := -5
  greatest := 15

def kind : Json → String
  | null => "null"
  | bool b => "boolean `" ++ Outline.flag b ++ "`"
  | int i => "integer `" ++ toString i ++ "`"
  | float x => "floating point `" ++ Decimal.ofFloat floatLayout x ++ "`"
  | str s => "string " ++ Quoted.ofText s
  | array _ => "sequence"
  | object _ => "map"

variable {α : Type}

/-- Puts an entry before the first one whose key is not smaller. -/
def insertByKey (e : String × α) : List (String × α) → List (String × α)
  | [] => [e]
  | e' :: es => if e'.1 < e.1 then e' :: insertByKey e es else e :: e' :: es

/-- Entries in ascending order of their keys, by the bytes of their UTF-8 form, which is the order
of their code points. -/
def sortByKey : List (String × α) → List (String × α)
  | [] => []
  | e :: es => insertByKey e (sortByKey es)

theorem insertByKey_perm (e : String × α) (es : List (String × α)) :
    (insertByKey e es).Perm (e :: es) := by
  induction es with
  | nil => exact .refl _
  | cons e' es ih =>
    unfold insertByKey
    split
    · exact (ih.cons e').trans (.swap e e' es)
    · exact .refl _

theorem sortByKey_perm (es : List (String × α)) : (sortByKey es).Perm es := by
  induction es with
  | nil => exact .refl _
  | cons e es ih => exact (insertByKey_perm e _).trans (ih.cons e)

theorem pairwise_insertByKey {e : String × α} {es : List (String × α)}
    (h : es.Pairwise (fun a b => a.1 ≤ b.1)) :
    (insertByKey e es).Pairwise (fun a b => a.1 ≤ b.1) := by
  induction es with
  | nil => simp [insertByKey]
  | cons e' es ih =>
    obtain ⟨he', hes⟩ := List.pairwise_cons.1 h
    unfold insertByKey
    split
    next hlt =>
      refine List.pairwise_cons.2 ⟨fun x hx => ?_, ih hes⟩
      rcases List.mem_cons.1 ((insertByKey_perm e es).mem_iff.1 hx) with rfl | hx
      · exact String.not_lt.1 (String.lt_asymm hlt)
      · exact he' x hx
    next hle =>
      have hle : e.1 ≤ e'.1 := String.not_lt.1 hle
      refine List.pairwise_cons.2 ⟨fun x hx => ?_, h⟩
      rcases List.mem_cons.1 hx with rfl | hx
      · exact hle
      · exact String.le_trans hle (he' x hx)

theorem pairwise_sortByKey (es : List (String × α)) :
    (sortByKey es).Pairwise (fun a b => a.1 ≤ b.1) := by
  induction es with
  | nil => exact .nil
  | cons e es ih => exact pairwise_insertByKey ih

end Json
end AggregateRouting
