import SqlFilter.Calendar
import SqlFilter.Number.Decimal
import SqlFilter.Text.Space
import SqlFilter.Toml.Value

/-!
# Bare TOML values

Numbers, truth values, dates and times are written without marks. None of their characters can
follow a value, so a value is the longest run of such characters, and is read as a whole.

Digits may have underscores between them. Whole numbers are decimal, without needless zeros in
front, or have a base in front and no sign; they fit into 64 bits. Other numbers have digits on
both sides of the point if they have one.

## Main definitions

* `isBareChar`: the characters of such values.
* `integer?`, `float?`, `isDateTime`: the sorts of values.
* `bareValue?`: the value that a run of characters spells.
-/

namespace SqlFilter.Toml

open Number (Decimal Double)

/-- Characters of values without marks. -/
def isBareChar (c : Char) : Bool :=
  c.isAlphanum || c == '_' || c == '+' || c == '-' || c == '.' || c == ':'

/-! ## Numbers -/

/-- Digits without the underscores between them; none if an underscore does not stand between two
digits, or another character is there. The result has at least one digit. -/
def plainDigits? (base : Nat) : List Char → Option (List Char)
  | [] => none
  | [c] => if Number.digitValue c < base then some [c] else none
  | c :: '_' :: rest =>
    if Number.digitValue c < base then (plainDigits? base rest).map (c :: ·) else none
  | c :: rest =>
    if Number.digitValue c < base then (plainDigits? base rest).map (c :: ·) else none

/-- The digits of a decimal whole number, which has no needless zero in front. -/
def wholeDigits? (cs : List Char) : Option (List Char) :=
  match cs with
  | ['0'] => some ['0']
  | '0' :: _ => none
  | _ => plainDigits? 10 cs

/-- A number in 64 bits. -/
def word? (n : Int) : Option Int64 :=
  if Int64.minValue.toInt ≤ n ∧ n ≤ Int64.maxValue.toInt then some (Int64.ofInt n) else none

/-- A whole number. -/
def integer? (cs : List Char) : Option Int64 :=
  let natural (base : Nat) (digits : Option (List Char)) : Option Int :=
    (digits.bind (Number.digitsValue? base)).map fun n => (n : Int)
  match cs with
  | '0' :: 'x' :: rest => (natural 16 (plainDigits? 16 rest)).bind word?
  | '0' :: 'o' :: rest => (natural 8 (plainDigits? 8 rest)).bind word?
  | '0' :: 'b' :: rest => (natural 2 (plainDigits? 2 rest)).bind word?
  | '-' :: rest => (natural 10 (wholeDigits? rest)).bind fun n => word? (-n)
  | '+' :: rest => (natural 10 (wholeDigits? rest)).bind word?
  | _ => (natural 10 (wholeDigits? cs)).bind word?

/-- Digits after a sign that may be missing. -/
def signedDigits? (cs : List Char) : Option (List Char) :=
  match cs with
  | '-' :: rest => (plainDigits? 10 rest).map ('-' :: ·)
  | '+' :: rest => plainDigits? 10 rest
  | _ => plainDigits? 10 cs

/-- The exponent of a number, with its mark, and nothing if there is none. -/
def exponent? (cs : List Char) : Option (List Char) :=
  match cs with
  | [] => some []
  | c :: rest => if c == 'e' || c == 'E' then (signedDigits? rest).map ('e' :: ·) else none

/-- A number with a point or an exponent, without its sign, in plain spelling. -/
def plainDecimal? (cs : List Char) : Option (List Char) := do
  let inRun (c : Char) : Bool := c.isDigit || c == '_'
  let whole ← wholeDigits? (cs.takeWhile inRun)
  match cs.dropWhile inRun with
  | '.' :: rest =>
    let part ← plainDigits? 10 (rest.takeWhile inRun)
    let power ← exponent? (rest.dropWhile inRun)
    return whole ++ '.' :: part ++ power
  | [] => none
  | rest => return whole ++ (← exponent? rest)

/-- A floating-point number. A positive one must not be too large. -/
def float? (cs : List Char) : Option Double :=
  let (negative, body) := Number.takeSign cs
  if body = "inf".toList then some (.infinity negative)
  else if body = "nan".toList then some .nan
  else do
    let d ← (plainDecimal? body).bind Decimal.ofChars?
    let x := ({ d with negative } : Decimal).toDouble
    if x.isInfinite && !negative then none else some x

/-! ## Dates and times -/

/-- A number of a fixed count of digits. -/
def fixed? (count : Nat) (cs : List Char) : Option Nat :=
  if cs.length = count then Number.digitsValue? 10 cs else none

/-- Whether characters are a date, as `YYYY-MM-DD`. -/
def isDate (cs : List Char) : Bool :=
  match Text.splitChars '-' cs with
  | [y, m, d] =>
    match fixed? 4 y, fixed? 2 m, fixed? 2 d with
    | some y, some m, some d => (Date.of? y m d).isSome
    | _, _, _ => false
  | _ => false

/-- Whether characters are a number of two digits that is at most a given one. -/
def isTwoDigits (most : Nat) (cs : List Char) : Bool :=
  match fixed? 2 cs with
  | some n => n ≤ most
  | none => false

/-- Whether characters are seconds, with a fraction or without. -/
def isSecond (cs : List Char) : Bool :=
  match Text.splitChars '.' cs with
  | [s] => isTwoDigits 60 s
  | [s, fraction] => isTwoDigits 60 s && (Number.digitsValue? 10 fraction).isSome
  | _ => false

/-- Whether characters are a time of day, as `HH:MM:SS` with a fraction or without. -/
def isTime (cs : List Char) : Bool :=
  match Text.splitChars ':' cs with
  | [h, m, s] => isTwoDigits 23 h && isTwoDigits 59 m && isSecond s
  | _ => false

/-- Whether characters are the distance of a local time from the common one, or no distance. -/
def isOffset (cs : List Char) : Bool :=
  match cs with
  | [] | ['Z'] | ['z'] => true
  | sign :: rest =>
    (sign == '+' || sign == '-') &&
      match Text.splitChars ':' rest with
      | [h, m] => isTwoDigits 23 h && isTwoDigits 59 m
      | _ => false

/-- Whether characters are a time of day with the distance from the common time or without. -/
def isTimeWithOffset (cs : List Char) : Bool :=
  let inTime (c : Char) : Bool := c.isDigit || c == ':' || c == '.'
  isTime (cs.takeWhile inTime) && isOffset (cs.dropWhile inTime)

/-- Whether characters are a date, a time of day, or both with a `T` between them. -/
def isDateTime (cs : List Char) : Bool :=
  isTime cs || isDate cs ||
    (isDate (cs.take 10) &&
      match cs.drop 10 with
      | c :: rest => (c == 'T' || c == 't') && isTimeWithOffset rest
      | [] => false)

/-! ## Values -/

/-- The value that a run of characters spells. -/
def bareValue? (cs : List Char) : Option Value :=
  if cs = "true".toList then some (.boolean true)
  else if cs = "false".toList then some (.boolean false)
  else if isDateTime cs then some .dateTime
  else match integer? cs with
    | some n => some (.integer n)
    | none => (float? cs).map .float

/-- Reads a value without marks. A date may be followed by a blank and a time of day. -/
def scanBare (cs : List Char) : Option (Value × List Char) :=
  let run := cs.takeWhile isBareChar
  let rest := cs.dropWhile isBareChar
  match rest with
  | ' ' :: more =>
    if isDate run && (more.head?.any Char.isDigit) then
      if isTimeWithOffset (more.takeWhile isBareChar) then
        some (.dateTime, more.dropWhile isBareChar)
      else none
    else (bareValue? run).map fun v => (v, rest)
  | _ => (bareValue? run).map fun v => (v, rest)

end SqlFilter.Toml
