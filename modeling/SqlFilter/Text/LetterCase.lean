import SqlFilter.Text.Ranges
import SqlFilter.Text.LetterTables

/-!
# Letter case

Writing a text in small letters, and asking whether a character is a capital or a small letter.

Case belongs to letters of every script. Two letters need more than a table: the capital `İ`
becomes two characters, and the capital `Σ` becomes `ς` at the end of a word and `σ` elsewhere.
"At the end of a word" is the standard's condition: a cased character comes before, looking
through marks and the like, and none comes after.

## Main definitions

* `lowerChar`: the small spelling of one character, without regard to its neighbours.
* `lowerChars`: a word in small letters, with the final sigma.
* `hasLower`, `hasUpper`: whether a small or a capital spelling would change the character.
-/

namespace SqlFilter.Text

/-! ## One character -/

/-- The small letter of a capital past ASCII, if the tables know one. -/
def lookupLower (c : Char) : Option Char :=
  lowerRuns.findSome? fun (first, last, step, small) =>
    if first ≤ c.toNat && c.toNat ≤ last && (c.toNat - first) % step == 0 then
      some (Char.ofNat (small + (c.toNat - first)))
    else none

/-- The small spelling of a character by itself. -/
def lowerChar (c : Char) : List Char :=
  if isAscii c then [c.toLower]
  else if c == 'İ' then ['i', '\u0307']
  else [(lookupLower c).getD c]

/-- Whether a small spelling would change the character. -/
def hasLower (c : Char) : Bool := lowerChar c != [c]

/-- Whether a capital spelling would change the character. -/
def hasUpper (c : Char) : Bool := if isAscii c then c.isLower else raisedRanges.contains c

/-- Whether the character has a case: capital, small or title. -/
def isCased (c : Char) : Bool := if isAscii c then c.isAlpha else casedRanges.contains c

/-- Whether the character is looked through when the case of a neighbour matters. -/
def isCaseIgnorable (c : Char) : Bool :=
  if isAscii c then ['\x27', '.', ':', '^', '\x60'].contains c
  else caseIgnorableRanges.contains c

/-! ## A word -/

/-- Whether a cased character comes first, looking through the ignorable ones. -/
def casedAhead (cs : List Char) : Bool :=
  match cs.dropWhile isCaseIgnorable with
  | [] => false
  | c :: _ => isCased c

/-- Small letters for the rest of a word, given the characters before it, nearest first. -/
def lowerFrom (before : List Char) : List Char → List Char
  | [] => []
  | c :: cs =>
    if c == 'Σ' then
      (if casedAhead before && !casedAhead cs then 'ς' else 'σ') :: lowerFrom (c :: before) cs
    else lowerChar c ++ lowerFrom (c :: before) cs

/-- A word in small letters. -/
def lowerChars (cs : List Char) : List Char := lowerFrom [] cs

end SqlFilter.Text
