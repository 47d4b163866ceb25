import SqlFilter.Number.Decimal

/-!
# Escapes with digits

Quoted text may hold a character as its code point in hexadecimal, with a fixed number of digits.
A scan that goes through quoted text character by character keeps an `Escape`, which says how far
the reading of an escape has come.
-/

namespace SqlFilter.Text

/-- How far the reading of an escape has come. -/
inductive Escape where
  /-- No escape has begun. -/
  | none
  /-- The backslash was read. -/
  | started
  /-- So many digits are missing, and those that were read make up a value. -/
  | digits (missing value : Nat)
  deriving DecidableEq, Repr

/-- The character of a code point; none for halves of surrogate pairs and past the last one. -/
def ofCodePoint? (n : Nat) : Option Char :=
  if n.isValidChar then some (Char.ofNat n) else .none

/-- One more digit of an escape. It leads to the rest of the escape, or completes a character. -/
def Escape.digit? (missing value : Nat) (c : Char) : Option (Escape ⊕ Char) :=
  let value := value * 16 + Number.digitValue c
  if 16 ≤ Number.digitValue c then .none
  else if missing ≤ 1 then (ofCodePoint? value).map .inr
  else some (.inl (.digits (missing - 1) value))

end SqlFilter.Text
