/-!
# Binary floating-point numbers

A floating-point number is held as its bits, and everything this package does with one (telling
zero, reading its exact value, rounding a ratio to the nearest number) is integer arithmetic on
those bits. No machine arithmetic is involved, so two numbers are equal exactly when their bits
are, and a statement about them is a statement about natural numbers.

## Main definitions

* `Format`: the sizes that make up a binary interchange format; `Format.double`, `Format.single`.
* `Format.nearest`: the code of the number nearest to a ratio, ties to the even code.
* `Format.decode`: the significand and exponent that a code stands for.
* `Double`: a double-precision number.
-/

namespace SqlFilter.Number

/-! ## Formats -/

/-- A binary interchange format: the significand has `precision` bits, its last place is worth
`2 ^ lowest` in the smallest numbers, and `exponentBits` bits hold the exponent. -/
structure Format where
  precision : Nat
  lowest : Int
  exponentBits : Nat

/-- Double precision. -/
def Format.double : Format := ⟨53, -1074, 11⟩

/-- Single precision. -/
def Format.single : Format := ⟨24, -149, 8⟩

/-- How many significands share one exponent. -/
def Format.binade (f : Format) : Nat := Nat.pow 2 (f.precision - 1)

/-- The code of infinity, without a sign. Smaller codes are finite, larger ones are no numbers. -/
def Format.infinity (f : Format) : Nat := (Nat.pow 2 f.exponentBits - 1) * f.binade

/-- The code of zero with a sign. -/
def Format.signed (f : Format) (negative : Bool) (code : Nat) : Nat :=
  if negative then Nat.pow 2 f.exponentBits * f.binade + code else code

/-- The significand and exponent of a finite code without a sign: it stands for
`significand * 2 ^ exponent`. -/
def Format.decode (f : Format) (code : Nat) : Nat × Int :=
  if code < f.binade then (code, f.lowest)
  else (code % f.binade + f.binade, f.lowest + (code / f.binade : Nat) - 1)

/-! ## Rounding a ratio -/

/-- The quotient rounded to the nearest integer, a half to the even one. -/
def divNearest (n d : Nat) : Nat :=
  let q := n / d
  let r := n % d
  if 2 * r > d || (2 * r == d && q % 2 == 1) then q + 1 else q

/-- The exponent of the largest power of two that does not exceed the ratio. -/
def floorLog (n d : Nat) : Int :=
  let guess : Int := (n.log2 : Int) - d.log2
  let reached :=
    if 0 ≤ guess then d * Nat.pow 2 guess.toNat ≤ n else d ≤ n * Nat.pow 2 (-guess).toNat
  if reached then guess else guess - 1

/-- The code, without a sign, of the number nearest to `n / d`, a tie going to the even code.
Ratios past the largest number give infinity.

The code of `m * 2 ^ q` is `m` plus one binade for each step of `q` above the lowest exponent.
That holds in every binade, and a significand rounded up to the next power of two lands on the
right code by itself. -/
def Format.nearest (f : Format) (n d : Nat) : Nat :=
  if n = 0 then 0
  else
    let q := max f.lowest (floorLog n d - (f.precision - 1 : Nat))
    let m :=
      if 0 ≤ q then divNearest n (d * Nat.pow 2 q.toNat)
      else divNearest (n * Nat.pow 2 (-q).toNat) d
    min ((q - f.lowest).toNat * f.binade + m) f.infinity

/-- The code of the number nearest to `significand * 2 ^ exponent`. -/
def Format.nearestScaled (f : Format) (significand : Nat) (exponent : Int) : Nat :=
  if 0 ≤ exponent then f.nearest (significand * Nat.pow 2 exponent.toNat) 1
  else f.nearest significand (Nat.pow 2 (-exponent).toNat)

/-! ## Double precision -/

/-- A double-precision number, by its bits. -/
structure Double where
  bits : UInt64
  deriving DecidableEq, Repr

namespace Double

/-- The number with a sign and a code. -/
def ofCode (negative : Bool) (code : Nat) : Double :=
  ⟨UInt64.ofNat (Format.double.signed negative code)⟩

/-- Whether the sign is set, as it is for negative zero. -/
def isNegative (x : Double) : Bool := Nat.pow 2 63 ≤ x.bits.toNat

/-- The bits without the sign. -/
def code (x : Double) : Nat := x.bits.toNat % Nat.pow 2 63

/-- Whether the bits stand for no number. -/
def isNaN (x : Double) : Bool := Format.double.infinity < x.code

/-- Whether the number is an infinity. -/
def isInfinite (x : Double) : Bool := x.code == Format.double.infinity

/-- Whether the number is a zero of either sign. -/
def isZero (x : Double) : Bool := x.code == 0

/-- The value for "no number". -/
def nan : Double := ⟨0x7ff8000000000000⟩

/-- Positive or negative infinity. -/
def infinity (negative : Bool) : Double := ofCode negative Format.double.infinity

/-- The number nearest to a natural number. -/
def ofNat (n : Nat) : Double := ofCode false (Format.double.nearest n 1)

end Double

end SqlFilter.Number
