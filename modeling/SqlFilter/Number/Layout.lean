import SqlFilter.Number.Shortest

/-!
# How a floating-point number is written

A layout says where a number's digits are written out in full and where with an exponent, whether
a whole number shows a fraction, and which of two equally near shortest decimals is taken. Every
text of a number in this package is one of three layouts: `Layout.plain` for values shown to a
reader or put into a pattern, `Layout.json` for JSON, and `Layout.exact` for quoted structures.

## Main definitions

* `Layout`: the choices.
* `Layout.text`: a number in a layout.
-/

namespace SqlFilter.Number

/-- The choices a number's text depends on. -/
structure Layout where
  /-- Which of two equally near shortest decimals is taken. -/
  tie : Tie
  /-- The least and greatest exponent of the first digit that are written without an exponent;
  every number is if there are no bounds. -/
  positional : Option (Int × Int)
  /-- Whether a whole number written without an exponent ends in `.0`. -/
  wholePoint : Bool
  /-- Whether a positive exponent carries a sign. -/
  exponentPlus : Bool

/-- Never an exponent, no point in a whole number: `1`, `0.1`, `1000000000000000000000`. -/
def Layout.plain : Layout := ⟨.up, none, false, false⟩

/-- Written out from `0.00001` up to below `1e+16`, with a point: `1.0`, `1e+16`, `1.5e-9`. -/
def Layout.json : Layout := ⟨.even, some (-5, 15), true, true⟩

/-- Written out from `0.0001` up to below `1e16`, with a point: `1.0`, `1e16`, `1.5e-9`. -/
def Layout.exact : Layout := ⟨.up, some (-4, 15), true, false⟩

/-- The digits `ds`, the last of them worth `10 ^ place`, written without an exponent. -/
def positionalText (wholePoint : Bool) (ds : List Char) (place : Int) : String :=
  if 0 ≤ place then
    String.ofList (ds ++ List.replicate place.toNat '0') ++ if wholePoint then ".0" else ""
  else
    let places := (-place).toNat
    if places < ds.length then
      String.ofList (ds.take (ds.length - places)) ++ "." ++
        String.ofList (ds.drop (ds.length - places))
    else "0." ++ String.ofList (List.replicate (places - ds.length) '0' ++ ds)

/-- The digits `ds` with one of them before the point, times a power of ten. -/
def exponentText (plus : Bool) (ds : List Char) (lead : Int) : String :=
  let mantissa := match ds with
    | [] => "0"
    | [d] => d.toString
    | d :: more => d.toString ++ "." ++ String.ofList more
  mantissa ++ "e" ++ (if plus && 0 ≤ lead then "+" else "") ++ toString lead

/-- A finite number without its sign. -/
def Layout.magnitudeText (l : Layout) (x : Double) : String :=
  if x.isZero then (if l.wholePoint then "0.0" else "0")
  else
    let (digits, place) := x.shortest l.tie
    let ds := decimalDigits digits
    let lead := place + (ds.length : Int) - 1
    let written := match l.positional with
      | none => true
      | some (least, greatest) => least ≤ lead && lead ≤ greatest
    if written then positionalText l.wholePoint ds place else exponentText l.exponentPlus ds lead

/-- A number in a layout. -/
def Layout.text (l : Layout) (x : Double) : String :=
  if x.isNaN then "NaN"
  else (if x.isNegative then "-" else "") ++
    if x.isInfinite then "inf" else l.magnitudeText x

end SqlFilter.Number
