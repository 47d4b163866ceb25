import SqlFilter.Text.Escape
import SqlFilter.Yaml.Gap
import SqlFilter.Yaml.Token

/-!
# Scalars

The texts that scalars stand for. A scalar is written without marks, between single or double
quotation marks, or as a block of lines. Each form has a scan of its own, which walks over the
glyphs once and returns the text and what is left.

A scan carries the text so far, last character first, and the gap since then.

## Main definitions

* `scanPlain`: a scalar without marks.
* `scanSingle`, `scanDouble`: a scalar in quotation marks, from after the first of them.
* `BlockStyle`, `scanBlock`: a block of lines, from after its `|` or `>`.
-/

namespace SqlFilter.Yaml

/-- Text so far, last character first, with a gap and what follows put after it. -/
def extend (acc : List Char) (gap : Gap) (following : List Char) : List Char :=
  following.reverse ++ gap.text.reverse ++ acc

/-! ## Scalars without marks -/

/-- Where a scalar without marks stands. -/
structure Place where
  /-- Whether it stands between brackets. -/
  inFlow : Bool
  /-- The column that its lines must reach. -/
  margin : Nat

/-- A scalar that was read. -/
structure Scanned where
  text : String
  /-- Whether the scan went past the end of a line after the text. -/
  passedBreak : Bool
  rest : List Glyph

/-- Whether a scalar without marks stops before a word, because of where the word begins or
because it begins a comment. -/
def stopsBefore (place : Place) (g : Glyph) (rest : List Glyph) : Bool :=
  (!place.inFlow && decide (g.column < place.margin)) || atMarker (g :: rest) || g.char == '#'

/-- Whether a scalar without marks stops at a character within a word. -/
def stopsAt (place : Place) (c : Char) (rest : List Glyph) : Bool :=
  (c == ':' && endsWord rest) || (place.inFlow && ",[]\x7b\x7d".toList.contains c)

/-- Whether a colon could be read in two ways: between brackets, with an indicator after it. -/
def isAmbiguous (place : Place) (c : Char) (rest : List Glyph) : Bool :=
  place.inFlow && c == ':' && startsWithAny ",?[]\x7b\x7d".toList rest

/-- Reads on in a scalar without marks. -/
def scanPlainFrom (place : Place) (acc : List Char) (gap : Gap) : List Glyph → Option Scanned
  | [] => some ⟨String.ofList acc.reverse, gap.hasBreak, []⟩
  | g :: rest =>
    if isSpace g.char then
      if gap.hasBreak && g.char == '\t' && decide (g.column < place.margin) then none
      else scanPlainFrom place acc (gap.space g.char) rest
    else if isBreak g.char then scanPlainFrom place acc (gap.line g.char) rest
    else if (!gap.isEmpty && stopsBefore place g rest) then
      some ⟨String.ofList acc.reverse, gap.hasBreak, g :: rest⟩
    else if isAmbiguous place g.char rest then none
    else if stopsAt place g.char rest then
      some ⟨String.ofList acc.reverse, gap.hasBreak, g :: rest⟩
    else scanPlainFrom place (extend acc gap [g.char]) .none rest

/-- Reads a scalar without marks. -/
def scanPlain (place : Place) (gs : List Glyph) : Option Scanned :=
  scanPlainFrom place [] .none gs

/-! ## Scalars in quotation marks -/

/-- Reads on between single quotation marks. A mark inside the text is written twice. -/
def scanSingleFrom (acc : List Char) (gap : Gap) : List Glyph → Option (String × List Glyph)
  | [] => none
  | g :: rest =>
    if isSpace g.char then scanSingleFrom acc (gap.space g.char) rest
    else if isBreak g.char then scanSingleFrom acc (gap.line g.char) rest
    else if (!gap.isEmpty && atMarker (g :: rest)) then none
    else if g.char == '\x27' then
      match rest with
      | h :: others =>
        if h.char == '\x27' then scanSingleFrom (extend acc gap ['\x27']) .none others
        else some (String.ofList (extend acc gap []).reverse, h :: others)
      | [] => some (String.ofList (extend acc gap []).reverse, [])
    else scanSingleFrom (extend acc gap [g.char]) .none rest

/-- Reads a scalar between single quotation marks, from after the first of them. -/
def scanSingle (gs : List Glyph) : Option (String × List Glyph) := scanSingleFrom [] .none gs

/-- The character that a backslash and another character stand for. -/
def escaped? : Char → Option Char
  | '0' => some '\x00'
  | 'a' => some '\x07'
  | 'b' => some '\x08'
  | 't' => some '\t'
  | '\t' => some '\t'
  | 'n' => some '\n'
  | 'v' => some '\x0b'
  | 'f' => some '\x0c'
  | 'r' => some '\r'
  | 'e' => some '\x1b'
  | ' ' => some ' '
  | '"' => some '"'
  | '/' => some '/'
  | '\\' => some '\\'
  | 'N' => some '\u0085'
  | '_' => some '\u00a0'
  | 'L' => some '\u2028'
  | 'P' => some '\u2029'
  | _ => none

/-- How many hexadecimal digits follow a backslash and a character. -/
def hexLength? : Char → Option Nat
  | 'x' => some 2
  | 'u' => some 4
  | 'U' => some 8
  | _ => none

/-- Reads on between double quotation marks. An end of line after a backslash joins two lines
without a blank. -/
def scanDoubleFrom (acc : List Char) (gap : Gap) :
    Text.Escape → List Glyph → Option (String × List Glyph)
  | _, [] => none
  | .started, g :: rest =>
    if isBreak g.char then scanDoubleFrom acc (.lines none []) .none rest
    else match hexLength? g.char with
      | some n => scanDoubleFrom acc gap (.digits n 0) rest
      | none =>
        match escaped? g.char with
        | some c => scanDoubleFrom (c :: acc) gap .none rest
        | none => none
  | .digits missing value, g :: rest =>
    match Text.Escape.digit? missing value g.char with
    | some (.inl escape) => scanDoubleFrom acc gap escape rest
    | some (.inr c) => scanDoubleFrom (c :: acc) gap .none rest
    | none => none
  | .none, g :: rest =>
    if isSpace g.char then scanDoubleFrom acc (gap.space g.char) .none rest
    else if isBreak g.char then scanDoubleFrom acc (gap.line g.char) .none rest
    else if (!gap.isEmpty && atMarker (g :: rest)) then none
    else if g.char == '"' then some (String.ofList (extend acc gap []).reverse, rest)
    else if g.char == '\\' then scanDoubleFrom (extend acc gap []) .none .started rest
    else scanDoubleFrom (extend acc gap [g.char]) .none .none rest

/-- Reads a scalar between double quotation marks, from after the first of them. -/
def scanDouble (gs : List Glyph) : Option (String × List Glyph) :=
  scanDoubleFrom [] .none .none gs

/-! ## Blocks of lines -/

/-- What becomes of the ends of lines after the last line of a block. -/
inductive Chomp where
  /-- None stays. -/
  | strip
  /-- The first stays. -/
  | clip
  /-- All stay. -/
  | keep
  deriving DecidableEq, Repr

/-- How the lines of a block are put together. -/
structure BlockStyle where
  /-- Whether lines are joined with blanks. -/
  folded : Bool
  chomp : Chomp
  /-- How far the lines are indented past the text around; zero if the first line shows it. -/
  indent : Nat

/-- How a sign in the header of a block changes what becomes of its last ends of lines. -/
def chompOf? (c : Char) : Option Chomp :=
  if c == '+' then some .keep else if c == '-' then some .strip else none

/-- The indentation that a digit in the header of a block asks for. -/
def indentOf? (c : Char) : Option Nat := if c.isDigit then some (Number.digitValue c) else none

/-- Reads the sign and the digit in the header of a block, in either order. The digit is not 0. -/
def blockStyle? (folded : Bool) (gs : List Glyph) : Option (BlockStyle × List Glyph) :=
  let sign (gs : List Glyph) : Option Chomp × List Glyph :=
    match gs with
    | g :: rest => if (chompOf? g.char).isSome then (chompOf? g.char, rest) else (none, gs)
    | [] => (none, [])
  let digit (gs : List Glyph) : Option Nat × List Glyph :=
    match gs with
    | g :: rest => if (indentOf? g.char).isSome then (indentOf? g.char, rest) else (none, gs)
    | [] => (none, [])
  let (early, gs) := sign gs
  let (indent, gs) := digit gs
  let (late, gs) := if early.isSome || indent.isNone then (none, gs) else sign gs
  if indent = some 0 then none
  else some (⟨folded, (early <|> late).getD .clip, indent.getD 0⟩, gs)

/-- A block of lines as far as it has been read. -/
structure BlockText where
  /-- The column where lines begin, or zero if no line has shown it. -/
  indent : Nat
  /-- The furthest column that a line without text has reached. -/
  widest : Nat
  /-- Whether the reading is within a line of text. -/
  inLine : Bool
  /-- The text so far, last character first. -/
  acc : List Char
  /-- The end of the last line of text, if it was read. -/
  lead : Option Char
  /-- The ends of lines since then. -/
  breaks : List Char
  /-- Whether the last line of text began with a blank. -/
  indented : Bool

/-- The text so far, at the beginning of another line of text. Two lines that begin without a
blank are joined as words are, if lines are to be joined. -/
def BlockText.beginLine (folded : Bool) (b : BlockText) (c : Char) : List Char :=
  if folded && b.lead == some '\n' && !b.indented && !isSpace c then
    (if b.breaks.isEmpty then [' '] else b.breaks.reverse) ++ b.acc
  else b.breaks.reverse ++ b.lead.toList ++ b.acc

/-- The text of a block that has come to its end. -/
def BlockText.finish (chomp : Chomp) (b : BlockText) : String :=
  let tail := match chomp with
    | .strip => []
    | .clip => b.lead.toList
    | .keep => b.lead.toList ++ b.breaks
  String.ofList (b.acc.reverse ++ tail)

/-- Reads on in a block of lines. A tab must not stand where a line could be indented. -/
def scanBlockFrom (style : BlockStyle) (margin : Nat) (b : BlockText) :
    List Glyph → Option (String × List Glyph)
  | [] => some (b.finish style.chomp, [])
  | g :: rest =>
    if b.inLine then
      if isBreak g.char then
        scanBlockFrom style margin { b with inLine := false, lead := some g.char } rest
      else scanBlockFrom style margin { b with acc := g.char :: b.acc } rest
    else
      let inside := b.indent == 0 || decide (g.column < b.indent)
      let widest := max b.widest g.column
      if inside && g.char == ' ' then scanBlockFrom style margin b rest
      else if inside && g.char == '\t' then none
      else if isBreak g.char then
        scanBlockFrom style margin { b with widest, breaks := b.breaks ++ [g.char] } rest
      else
        let indent := if b.indent == 0 then max widest (max margin 1) else b.indent
        if g.column == indent then
          scanBlockFrom style margin
            { b with
              indent
              inLine := true
              acc := g.char :: b.beginLine style.folded g.char
              lead := none
              breaks := []
              indented := isSpace g.char }
            rest
        else some (b.finish style.chomp, g :: rest)

/-- Reads a block of lines, from after the sign that begins it, in a collection whose text must
reach a column. -/
def scanBlock (folded : Bool) (margin : Nat) (gs : List Glyph) : Option (String × List Glyph) :=
  match blockStyle? folded gs with
  | none => none
  | some (style, gs) =>
    match finishLine? gs with
    | none => none
    | some gs =>
      let indent := if style.indent == 0 then 0 else (margin - 1) + style.indent
      scanBlockFrom style margin ⟨indent, 0, false, [], none, [], false⟩ gs

end SqlFilter.Yaml
