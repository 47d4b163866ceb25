import SqlFilter.Number.Binary

/-!
# Decimal numbers

Reading decimal text, and rounding what was read to a floating-point number.

The text of a decimal has an optional sign, digits with an optional point among or beside them,
and an optional exponent. At least one digit must stand in the first part, and at least one in
the exponent if there is one.

## Main definitions

* `digitsValue?`: the value of a run of digits in a base.
* `Decimal.ofChars?`: the decimal that a text spells.
* `Decimal.toDouble`, `Decimal.toSingle`: the nearest number, in double precision, or in single
  precision and then widened.
-/

namespace SqlFilter.Number

/-! ## Digits -/

/-- The value of a digit, letters counting from ten. -/
def digitValue (c : Char) : Nat :=
  if c.isDigit then c.toNat - '0'.toNat
  else if 'a' ≤ c ∧ c ≤ 'z' then c.toNat - 'a'.toNat + 10
  else if 'A' ≤ c ∧ c ≤ 'Z' then c.toNat - 'A'.toNat + 10
  else 36

/-- The value of a run of digits, most significant first. -/
def ofDigits (base : Nat) (cs : List Char) : Nat :=
  cs.foldl (fun n c => n * base + digitValue c) 0

/-- The value of a text that is nothing but digits of the base, at least one of them. -/
def digitsValue? (base : Nat) (cs : List Char) : Option Nat :=
  if cs.isEmpty || cs.any (fun c => base ≤ digitValue c) then none
  else some (ofDigits base cs)

/-- The decimal digits of a natural number, most significant first. -/
def decimalDigits (n : Nat) : List Char := Nat.toDigits 10 n

/-! ## Decimals -/

/-- The number `digits * 10 ^ exponent`, with a sign. -/
structure Decimal where
  negative : Bool
  digits : Nat
  exponent : Int
  deriving DecidableEq, Repr

/-- An optional sign, and what follows it. -/
def takeSign : List Char → Bool × List Char
  | '-' :: cs => (true, cs)
  | '+' :: cs => (false, cs)
  | cs => (false, cs)

/-- The exponent part of a decimal: nothing, or a mark, an optional sign and digits. -/
def exponentValue? : List Char → Option Int
  | [] => some 0
  | c :: cs =>
    if c == 'e' || c == 'E' then
      let (negative, digits) := takeSign cs
      (digitsValue? 10 digits).map fun n => if negative then -(n : Int) else n
    else none

/-- The decimal that a text spells. -/
def Decimal.ofChars? (cs : List Char) : Option Decimal :=
  let (negative, cs) := takeSign cs
  let whole := cs.takeWhile Char.isDigit
  let rest := cs.dropWhile Char.isDigit
  let (part, rest) := match rest with
    | '.' :: after => (after.takeWhile Char.isDigit, after.dropWhile Char.isDigit)
    | _ => ([], rest)
  if whole.isEmpty && part.isEmpty then none
  else (exponentValue? rest).map fun e => ⟨negative, ofDigits 10 (whole ++ part), e - part.length⟩

/-- The code, without a sign, of the nearest number. The bounds keep a far exponent from being
computed: past them every number of either format is infinite or zero. -/
def Decimal.code (f : Format) (d : Decimal) : Nat :=
  let scale : Int := (decimalDigits d.digits).length + d.exponent
  if d.digits = 0 || scale < -400 then 0
  else if 400 < scale then f.infinity
  else if 0 ≤ d.exponent then f.nearest (d.digits * Nat.pow 10 d.exponent.toNat) 1
  else f.nearest d.digits (Nat.pow 10 (-d.exponent).toNat)

/-- The nearest number in double precision. -/
def Decimal.toDouble (d : Decimal) : Double := .ofCode d.negative (d.code .double)

/-- The nearest number in single precision, as the double that equals it. -/
def Decimal.toSingle (d : Decimal) : Double :=
  let code := d.code .single
  if Format.single.infinity ≤ code then .infinity d.negative
  else
    let (significand, exponent) := Format.single.decode code
    .ofCode d.negative (Format.double.nearestScaled significand exponent)

/-- Reads a decimal, `inf`, `-inf` or `NaN`, rounding a decimal as `round` says. -/
def readFloat? (round : Decimal → Double) (text : String) : Option Double :=
  match text with
  | "NaN" => some .nan
  | "inf" => some (.infinity false)
  | "-inf" => some (.infinity true)
  | _ => (Decimal.ofChars? text.toList).map round

end SqlFilter.Number
