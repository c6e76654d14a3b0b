/-!
# Shortest decimals

`shortestDecimal` writes a positive binary fraction with the fewest decimal digits that still tell it
from its neighbours: the coarsest decimal grid with a point among the numbers that round to it. All
arithmetic is exact.
-/

namespace ScriptCensus

/-- A number `digits * 10 ^ exponent`. -/
structure Decimal where
  digits : Nat
  exponent : Int
deriving Repr, BEq, DecidableEq, Inhabited

/-- A number `mantissa * 2 ^ exponent` among the neighbours that it is to be told from. -/
structure BinaryValue where
  mantissa : Nat
  exponent : Int
  /-- Whether the neighbour below is only half as far away as the one above. -/
  narrowBelow : Bool
deriving Repr, Inhabited

namespace BinaryValue

/-- One unit of a decimal grid, on the scale where `quarters` counts. -/
def gridUnit (v : BinaryValue) (k : Int) : Nat :=
  4 * Nat.pow 10 k.toNat * Nat.pow 2 (-v.exponent).toNat

/-- A number of quarters of the last place, on the scale where `gridUnit` counts. -/
def quarters (v : BinaryValue) (k : Int) (n : Nat) : Nat :=
  n * Nat.pow 2 v.exponent.toNat * Nat.pow 10 (-k).toNat

/-- Whether a point of a grid rounds to a value; halfway points go to the even mantissa. -/
def attracts (v : BinaryValue) (k : Int) (digits : Nat) : Bool :=
  let point := digits * v.gridUnit k
  let low := v.quarters k (4 * v.mantissa - (if v.narrowBelow then 1 else 2))
  let high := v.quarters k (4 * v.mantissa + 2)
  if v.mantissa % 2 = 0 then low ≤ point && point ≤ high else low < point && point < high

/-- The point of a grid that rounds to a value: the nearer one if there are two, the even one if they
are equally near. -/
def pointOn? (v : BinaryValue) (k : Int) : Option Nat :=
  let unit := v.gridUnit k
  let value := v.quarters k (4 * v.mantissa)
  let below := value / unit
  let remainder := value % unit
  match v.attracts k below, v.attracts k (below + 1) with
  | true, true =>
    if 2 * remainder < unit || (2 * remainder = unit && below % 2 = 0) then some below
    else some (below + 1)
  | true, false => some below
  | false, true => some (below + 1)
  | false, false => none

/-- Looks for a point on a grid and, if there is none, on as many finer grids as given. -/
def search (v : BinaryValue) : Nat → Int → Decimal
  | 0, k => ⟨v.quarters k (4 * v.mantissa) / v.gridUnit k, k⟩
  | finer + 1, k =>
    match v.pointOn? k with
    | some digits => ⟨digits, k⟩
    | none => v.search finer (k - 1)

end BinaryValue

/-- The decimal with the fewest digits that rounds to a value. Between the largest and the smallest
binary fraction there are no more grids than are searched. -/
def shortestDecimal (v : BinaryValue) : Decimal :=
  v.search 660 309

/-- The finite number that a float stands for, without its sign. -/
def binaryValueOf (f : Float) : BinaryValue :=
  let bits : Nat := f.toBits.toNat
  let fraction : Nat := bits % Nat.pow 2 52
  let biased : Nat := bits / Nat.pow 2 52 % 2048
  if biased = 0 then ⟨fraction, -1074, false⟩
  else ⟨Nat.pow 2 52 + fraction, (biased : Int) - 1075, fraction = 0 && biased > 1⟩

/-- Whether the sign of a float is minus. -/
def hasMinus (f : Float) : Bool :=
  f.toBits.toNat / Nat.pow 2 63 = 1

end ScriptCensus
