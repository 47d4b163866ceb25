import SqlFilter.Number.Decimal

/-!
# Plain scalars

What a scalar without quotation marks stands for: nothing, a truth value, a number, or else its
text. Only a few spellings stand for something other than text. Whole numbers are decimal, or have
a base in front (`0x`, `0o`, `0b`), and digits with a needless zero in front are text.

Whole numbers of up to 128 bits are read exactly. A decimal one that is larger counts as a
floating-point number, and other decimals do too, unless they are too large for one.

## Main definitions

* `isNull`, `boolOf?`, `integerOf?`, `floatOf?`: the kinds of plain scalars.
* `Core`, `Core.ofPlain`: which of the kinds a plain scalar is.
-/

namespace SqlFilter.Yaml

open Number (Double Decimal)

/-! ## Kinds of scalars -/

/-- The spellings of nothing, other than writing nothing. -/
def isNull (text : String) : Bool := ["~", "null", "Null", "NULL"].contains text

/-- Truth values. -/
def boolOf? (text : String) : Option Bool :=
  if ["true", "True", "TRUE"].contains text then some true
  else if ["false", "False", "FALSE"].contains text then some false
  else none

/-- Digits, with a sign or without, that begin with a needless zero. -/
def hasNeedlessZero (cs : List Char) : Bool :=
  let digits := match cs with
    | c :: rest => if c == '-' || c == '+' then rest else cs
    | [] => []
  match digits with
  | '0' :: rest => !rest.isEmpty && rest.all Char.isDigit
  | _ => false

/-- A whole number without a sign, with a base in front or in decimal. -/
def naturalOf? (cs : List Char) : Option Nat :=
  match cs with
  | '0' :: 'x' :: rest => Number.digitsValue? 16 rest
  | '0' :: 'o' :: rest => Number.digitsValue? 8 rest
  | '0' :: 'b' :: rest => Number.digitsValue? 2 rest
  | _ => Number.digitsValue? 10 cs

/-- A whole number of any size. -/
def anyIntegerOf? (cs : List Char) : Option Int :=
  if hasNeedlessZero cs then none
  else match cs with
    | '-' :: rest => (naturalOf? rest).map fun n => -(n : Int)
    | '+' :: rest => (naturalOf? rest).map fun n => (n : Int)
    | _ => (naturalOf? cs).map fun n => (n : Int)

/-- A whole number that fits into 128 bits, with a sign bit if it is negative. -/
def integerOf? (text : String) : Option Int :=
  match anyIntegerOf? text.toList with
  | some n =>
    if -Int.ofNat (Nat.pow 2 127) ≤ n ∧ n < Int.ofNat (Nat.pow 2 128) then some n else none
  | none => none

/-- A decimal that is not too large for a floating-point number. -/
def decimalOf? (cs : List Char) : Option Double :=
  match Decimal.ofChars? cs with
  | some d => if d.toDouble.isInfinite then none else some d.toDouble
  | none => none

/-- A floating-point number, maybe an infinity or no number. A plus sign may stand in front. -/
def floatOf? (text : String) : Option Double :=
  let unsigned := match text.toList with
    | '+' :: rest => rest
    | cs => cs
  if text.toList.head? = some '+' ∧ (unsigned.head? = some '+' ∨ unsigned.head? = some '-') then
    none
  else if [".inf", ".Inf", ".INF"].contains (String.ofList unsigned) then
    some (Double.infinity false)
  else if ["-.inf", "-.Inf", "-.INF"].contains text then some (Double.infinity true)
  else if [".nan", ".NaN", ".NAN"].contains text then some Double.nan
  else decimalOf? unsigned

/-! ## Classification -/

/-- What a scalar stands for. -/
inductive Core where
  | null
  | bool (b : Bool)
  | integer (n : Int)
  | float (x : Double)
  | text
  deriving DecidableEq

/-- What a plain scalar stands for. -/
def Core.ofPlain (text : String) : Core :=
  if text = "" || isNull text then .null
  else match boolOf? text with
    | some b => .bool b
    | none =>
      match integerOf? text with
      | some n => .integer n
      | none =>
        if hasNeedlessZero text.toList then .text
        else match floatOf? text with
          | some x => .float x
          | none => .text

end SqlFilter.Yaml
