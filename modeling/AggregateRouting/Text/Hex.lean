/-! # Hexadecimal digits

Numbers as a set number of lower-case hexadecimal digits, and back from digits of either letter
case. Main statement: reading what was written gives the number, as far as the digits reach. -/

namespace AggregateRouting.Hex

/-- The last `count` digits of `n`, the most significant first. -/
def digits : (count n : Nat) → List Char
  | 0, _ => []
  | count + 1, n => digits count (n / 16) ++ [Nat.digitChar (n % 16)]

def value? (c : Char) : Option Nat :=
  if c.isDigit then some (c.toNat - '0'.toNat)
  else if 'a' ≤ c ∧ c ≤ 'f' then some (c.toNat - 'a'.toNat + 10)
  else if 'A' ≤ c ∧ c ≤ 'F' then some (c.toNat - 'A'.toNat + 10)
  else none

def number? (cs : List Char) : Option Nat :=
  cs.foldlM (fun n c => (value? c).map (16 * n + ·)) 0

@[simp] theorem length_digits (count n : Nat) : (digits count n).length = count := by
  induction count generalizing n with
  | zero => rfl
  | succ count ih => simp [digits, ih]

theorem value?_digitChar : ∀ d < 16, value? (Nat.digitChar d) = some d := by
  decide

/-- The number of written digits is the number that was written, up to what they have room for. -/
theorem number?_digits (count n : Nat) :
    number? (digits count n) = some (n % Nat.pow 16 count) := by
  induction count generalizing n with
  | zero => simp [digits, number?, Nat.mod_one]
  | succ count ih =>
    have hd := value?_digitChar (n % 16) (Nat.mod_lt _ (by decide))
    have hn : number? (digits count (n / 16)) = some (n / 16 % Nat.pow 16 count) := ih (n / 16)
    rw [number?] at hn ⊢
    rw [digits, List.foldlM_append, hn]
    simp only [Option.bind_eq_bind, Option.bind_some, List.foldlM_cons, List.foldlM_nil, hd,
      Option.map_some, Option.pure_def, Option.some.injEq]
    have hp : Nat.pow 16 (count + 1) = 16 * Nat.pow 16 count := Nat.mul_comm _ _
    rw [hp, Nat.mod_mul]
    omega

end AggregateRouting.Hex
