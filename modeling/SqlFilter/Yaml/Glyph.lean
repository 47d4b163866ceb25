/-!
# Characters in their places

Indentation decides what a YAML text means, so its characters are read together with the line and
the column they stand in. All that follows works on a list of such glyphs, and a scan that stops
returns the glyphs that are left, places included.

The five ways to end a line are brought down to three: a carriage return, alone or with the line
feed after it, and the next-line character count as a line feed, while the line and paragraph
separators stay what they are. Columns count characters from zero.

## Main definitions

* `Glyph`, `Glyph.ofText?`: the glyphs of a text, unless it holds a control character.
* `isSpace`, `isBreak`, `endsWord`: what separates words and lines.
* `atMarker`: a line that starts or ends a document.
-/

namespace SqlFilter.Yaml

/-- A character and where it stands. -/
structure Glyph where
  char : Char
  line : Nat
  column : Nat
  deriving DecidableEq, Repr

/-! ## Classes of characters -/

/-- Blanks within a line. -/
def isSpace (c : Char) : Bool := c == ' ' || c == '\t'

/-- Ends of lines, after `joinBreaks`. -/
def isBreak (c : Char) : Bool := c == '\n' || c.toNat == 0x2028 || c.toNat == 0x2029

/-- Characters of names: letters, digits, `_` and `-`, all of them ASCII. -/
def isNameChar (c : Char) : Bool := c.isAlphanum || c == '_' || c == '-'

/-- Characters that a text may hold: no control characters but the tab and the ends of lines, and
none of the two code points at the end of the basic plane. -/
def mayAppear (c : Char) : Bool :=
  let n := c.toNat
  n == 0x9 || n == 0xA || n == 0xD || (0x20 ≤ n && n ≤ 0x7E) || n == 0x85 ||
    (0xA0 ≤ n && n ≤ 0xFFFD) || 0x10000 ≤ n

/-! ## Glyphs of a text -/

/-- A text with one line feed for each carriage return, pair of it and a line feed, and next-line
character. -/
def joinBreaks : List Char → List Char
  | [] => []
  | '\r' :: '\n' :: rest => '\n' :: joinBreaks rest
  | c :: rest => (if c == '\r' || c.toNat == 0x85 then '\n' else c) :: joinBreaks rest

/-- Characters with their places, the first of them at a given one. -/
def place (line column : Nat) : List Char → List Glyph
  | [] => []
  | c :: rest =>
    ⟨c, line, column⟩ ::
      (if isBreak c then place (line + 1) 0 rest else place line (column + 1) rest)

/-- The glyphs of a text. A byte order mark in front is left out, but keeps its column. -/
def Glyph.ofText? (text : String) : Option (List Glyph) :=
  let cs := text.toList
  if cs.all mayAppear then
    match place 0 0 (joinBreaks cs) with
    | g :: rest => some (if g.char.toNat == 0xFEFF then rest else g :: rest)
    | [] => some []
  else none

/-! ## Looking ahead -/

/-- Whether the next glyph is a given character. -/
def startsWith (c : Char) : List Glyph → Bool
  | [] => false
  | g :: _ => g.char == c

/-- Whether the next glyph is one of some characters. -/
def startsWithAny (cs : List Char) : List Glyph → Bool
  | [] => false
  | g :: _ => cs.contains g.char

/-- Whether a word cannot go on: a blank, the end of a line or the end of the text. -/
def endsWord : List Glyph → Bool
  | [] => true
  | g :: _ => isSpace g.char || isBreak g.char

/-- Whether a line cannot go on. -/
def endsLine : List Glyph → Bool
  | [] => true
  | g :: _ => isBreak g.char

/-- Whether a line begins with a character three times and nothing else in that word. -/
def atMarkerOf (c : Char) : List Glyph → Bool
  | a :: b :: d :: rest =>
    a.column == 0 && a.char == c && b.char == c && d.char == c && endsWord rest
  | _ => false

/-- Whether a line starts or ends a document. -/
def atMarker (gs : List Glyph) : Bool := atMarkerOf '-' gs || atMarkerOf '.' gs

/-- The characters up to the first that fails a test, and the glyphs from there. -/
def spanChars (p : Char → Bool) (gs : List Glyph) : List Char × List Glyph :=
  ((gs.takeWhile fun g => p g.char).map Glyph.char, gs.dropWhile fun g => p g.char)

end SqlFilter.Yaml
