import SqlFilter.Text.Ranges
import SqlFilter.Text.PrintTables

/-!
# Quoted text

Two ways to write a text between double quotes so that it can be read back. `jsonQuoted` escapes
what JSON requires and nothing else. `quoted` is for reading by people: it also spells out, by
code point, every character that would show nothing or merge with the quote before it.
-/

namespace SqlFilter.Text

/-- A number in base sixteen with small letters. -/
def hexText (n : Nat) : String := String.ofList (Nat.toDigits 16 n)

/-! ## JSON -/

/-- One character inside a JSON string: quotes, backslashes and controls below the blank are
escaped, all else stands for itself. -/
def jsonEscape (c : Char) : String :=
  if c == '"' then "\\\""
  else if c == '\\' then "\\\\"
  else if c == '\x08' then "\\b"
  else if c == '\t' then "\\t"
  else if c == '\n' then "\\n"
  else if c == '\x0c' then "\\f"
  else if c == '\r' then "\\r"
  else if c.toNat < 0x10 then "\\u000" ++ hexText c.toNat
  else if c.toNat < 0x20 then "\\u00" ++ hexText c.toNat
  else c.toString

/-- A text as a JSON string. -/
def jsonQuoted (s : String) : String :=
  "\"" ++ String.join (s.toList.map jsonEscape) ++ "\""

/-! ## For people -/

/-- Whether a character shows something of its own. -/
def isPrintable (c : Char) : Bool :=
  if isAscii c then 0x20 ≤ c.toNat && c.toNat < 0x7f
  else !unprintableRanges.contains c && !extendingRanges.contains c

/-- One character of a quoted text. -/
def quotedEscape (c : Char) : String :=
  if c == '"' then "\\\""
  else if c == '\\' then "\\\\"
  else if c == '\t' then "\\t"
  else if c == '\n' then "\\n"
  else if c == '\r' then "\\r"
  else if c == '\x00' then "\\0"
  else if isPrintable c then c.toString
  else "\\u\x7b" ++ hexText c.toNat ++ "\x7d"

/-- A text between double quotes with nothing invisible in it. -/
def quoted (s : String) : String :=
  "\"" ++ String.join (s.toList.map quotedEscape) ++ "\""

end SqlFilter.Text
