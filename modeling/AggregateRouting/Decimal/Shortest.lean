/-! # Shortest decimals

A floating-point number stands for all reals that round to it. Of the decimals among them the one
with the fewest digits is written, of those the nearest. Its size decides whether it is written with
a point among its digits or with an exponent behind them. -/

namespace AggregateRouting.Decimal

/-- The positive number `mantissa · 2 ^ exponent` of a floating-point format. Its neighbours lie one
unit of the exponent away, but the one below only half a unit if `narrow`. -/
structure Binary where
  mantissa : Nat
  exponent : Int
  narrow : Bool

/-- A fraction of naturals between two bounds over the same denominator. -/
structure Interval where
  value : Nat
  lower : Nat
  upper : Nat
  denominator : Nat
  closed : Bool

/-- The reals that round to `b`: up to halfway to its neighbours, and those ends only if its
mantissa is even. -/
def Binary.interval (b : Binary) : Interval :=
  let scale := Nat.pow 2 (b.exponent - 2).toNat
  { value := 4 * b.mantissa * scale
    lower := (4 * b.mantissa - if b.narrow then 1 else 2) * scale
    upper := (4 * b.mantissa + 2) * scale
    denominator := Nat.pow 2 (2 - b.exponent).toNat
    closed := b.mantissa % 2 == 0 }

def Interval.inUnits (i : Interval) (p : Int) : Interval :=
  let scale := Nat.pow 10 (-p).toNat
  { i with
    value := i.value * scale
    lower := i.lower * scale
    upper := i.upper * scale
    denominator := i.denominator * Nat.pow 10 p.toNat }

def Interval.holds (i : Interval) (n : Nat) : Bool :=
  let m := n * i.denominator
  if i.closed then i.lower ≤ m && m ≤ i.upper else i.lower < m && m < i.upper

/-- The natural number in the interval that is nearest to its value; of two equally near ones the
even one. -/
def Interval.nearest? (i : Interval) : Option Nat :=
  let n := i.value / i.denominator
  match i.holds n, i.holds (n + 1) with
  | true, true =>
    match compare (2 * i.value) ((2 * n + 1) * i.denominator) with
    | .lt => some n
    | .eq => some (n + n % 2)
    | .gt => some (n + 1)
  | true, false => some n
  | false, true => some (n + 1)
  | false, false => none

/-- The powers of ten whose multiples are tried, from one above every number of the double format
down to one that divides all of them finely enough. -/
def grids : List Int :=
  (List.range 700).map fun k => 310 - Int.ofNat k

/-- The digits `n` and the power `p` of the shortest decimal `n · 10 ^ p` that rounds to `b`. -/
def Binary.shortest (b : Binary) : Nat × Int :=
  let i := b.interval
  (grids.findSome? fun p => (i.inUnits p).nearest?.map (·, p)).getD (0, 0)

def positional (n : Nat) (p : Int) : String :=
  let digits := Nat.toDigits 10 n
  let places := (-p).toNat
  if places = 0 then String.ofList (digits ++ List.replicate p.toNat '0') ++ ".0"
  else
    let padded := List.replicate (places + 1 - digits.length) '0' ++ digits
    let whole := padded.length - places
    String.ofList (padded.take whole) ++ "." ++ String.ofList (padded.drop whole)

def leading (n : Nat) (p : Int) : Int :=
  p + ((Nat.toDigits 10 n).length - 1 : Nat)

def scientific (n : Nat) (p : Int) : String :=
  let exponent := leading n p
  let fraction := match (Nat.toDigits 10 n).tail with
    | [] => ""
    | ds => "." ++ String.ofList ds
  String.ofList ((Nat.toDigits 10 n).take 1) ++ fraction ++ "e"
    ++ (if exponent < 0 then "-" else "+") ++ toString exponent.natAbs

/-- The powers of ten for which the first digit of a decimal may stand if it is written without an
exponent. -/
structure Layout where
  least : Int
  greatest : Int

def Layout.write (l : Layout) (n : Nat) (p : Int) : String :=
  if l.least ≤ leading n p ∧ leading n p ≤ l.greatest then positional n p else scientific n p

def Binary.ofBits? (bits : Nat) : Option Binary :=
  let unit := Nat.pow 2 52
  let fraction := bits % unit
  let exponent := bits / unit % 2048
  if exponent = 0 then
    if fraction = 0 then none else some ⟨fraction, -1074, false⟩
  else some ⟨unit + fraction, (exponent : Int) - 1075, fraction == 0 && exponent != 1⟩

/-- A finite double as text: the fewest digits that read back as it. -/
def ofFloat (l : Layout) (x : Float) : String :=
  let bits := x.toBits.toNat
  let magnitude := match Binary.ofBits? bits with
    | none => "0.0"
    | some b => let (n, p) := b.shortest; l.write n p
  if bits / Nat.pow 2 63 = 1 then "-" ++ magnitude else magnitude

end AggregateRouting.Decimal
