import SqlFilter.Number.Decimal

/-!
# The shortest decimal of a floating-point number

Among the decimals that round to a given number, the one with the fewest digits is its shortest
text, and of several with equally few digits the nearest.

The reals that round to a number form an interval, closed if and only if its significand is
even. A decimal grid of a given spacing has a point in the interval only if one of the number's
two neighbours on that grid lies in it. So the search tries grids of one, two and more significant
digits and stops at the first with a neighbour inside. Seventeen digits always suffice for double
precision. If both neighbours lie inside and are equally near, the caller says which is taken.
-/

namespace SqlFilter.Number

/-- Which of two equally near decimals is taken. -/
inductive Tie where
  | even
  | up
  deriving DecidableEq, Repr

/-- The exponent of the first significant decimal digit of the ratio `n / d`, for `0 < n`. -/
def leadingExponent (n d : Nat) : Int :=
  if d ≤ n then ((decimalDigits (n / d)).length : Int) - 1
  else
    let above := (d + n - 1) / n - 1
    if above = 0 then 0 else -((decimalDigits above).length : Int)

/-- A positive number and the interval of reals that round to it, counted in one unit: the number
is `value` units and the interval runs from `low` to `high`. -/
structure Rounding where
  low : Nat
  value : Nat
  high : Nat
  closed : Bool

/-- The interval of a finite positive code, in units of `2 ^ (exponent - 2)`. Below a power of two
the neighbours lie twice as close, except at the lowest exponent. -/
def Format.rounding (f : Format) (code : Nat) : Rounding × Int :=
  let (m, q) := f.decode code
  let below := if m = f.binade ∧ q ≠ f.lowest then 1 else 2
  (⟨4 * m - below, 4 * m, 4 * m + 2, m % 2 == 0⟩, q - 2)

/-- The neighbour on the grid of spacing `10 ^ place` that rounds back to the number and is
nearest to it, if there is one. -/
def Rounding.onGrid? (r : Rounding) (unit place : Int) (tie : Tie) : Option Nat :=
  let scale := Nat.pow 2 unit.toNat * Nat.pow 10 (-place).toNat
  let spacing := Nat.pow 2 (-unit).toNat * Nat.pow 10 place.toNat
  let value := r.value * scale
  let inside (point : Nat) : Bool :=
    if r.closed then r.low * scale ≤ point && point ≤ r.high * scale
    else r.low * scale < point && point < r.high * scale
  let down := value / spacing
  let gap := value - down * spacing
  let downInside := inside (down * spacing)
  let upInside := inside ((down + 1) * spacing)
  if downInside && upInside then
    if 2 * gap < spacing || (2 * gap == spacing && tie == .even && down % 2 == 0) then some down
    else some (down + 1)
  else if downInside then some down
  else if upInside then some (down + 1)
  else none

/-- A decimal without its trailing zeros. -/
def stripZeros (fuel : Nat) (digits : Nat) (exponent : Int) : Nat × Int :=
  match fuel with
  | 0 => (digits, exponent)
  | fuel + 1 =>
    if digits % 10 = 0 then stripZeros fuel (digits / 10) (exponent + 1) else (digits, exponent)

/-- The shortest decimal that rounds to a finite positive number: its digits, none of them a
trailing zero, and the exponent of the last one. -/
def Double.shortest (tie : Tie) (x : Double) : Nat × Int :=
  let (r, unit) := Format.double.rounding x.code
  let lead := leadingExponent (r.value * Nat.pow 2 unit.toNat) (Nat.pow 2 (-unit).toNat)
  let found := (List.range 17).findSome? fun (more : Nat) =>
    (r.onGrid? unit (lead - more) tie).map fun n => (n, lead - more)
  let (digits, place) := found.getD (0, 0)
  stripZeros 20 digits place

end SqlFilter.Number
