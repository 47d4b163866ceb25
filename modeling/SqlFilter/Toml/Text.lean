import SqlFilter.Text.Escape

/-!
# TOML strings

Strings in double quotation marks hold escapes, those in single ones do not. Three marks begin a
string that may go over several lines. It ends at the last of the next three marks, and one or two
more marks right before those belong to it. The end of a line right after the first three marks
does not, and neither does an end of line after a backslash with all blank space after it.

All scans work on text whose lines end in line feeds.

## Main definitions

* `isText`: characters that may stand anywhere in text.
* `scanBasic`, `scanLiteral`: strings on one line, from after the first mark.
* `scanLongBasic`, `scanLongLiteral`: strings over several lines, from after the third mark.
-/

namespace SqlFilter.Toml

open Text (Escape)

/-- Characters that may stand in strings and comments: no control characters but the tab. -/
def isText (c : Char) : Bool := c == '\t' || (0x20 ≤ c.toNat && c.toNat != 0x7F)

/-- Blanks within a line. -/
def isSpace (c : Char) : Bool := c == ' ' || c == '\t'

/-- The character that a backslash and another character stand for. -/
def escaped? : Char → Option Char
  | 'b' => some '\x08'
  | 't' => some '\t'
  | 'n' => some '\n'
  | 'f' => some '\x0c'
  | 'r' => some '\r'
  | '"' => some '"'
  | '\\' => some '\\'
  | _ => none

/-- What a character after a backslash leads to: digits that follow, or a character. -/
def afterBackslash? (c : Char) : Option (Escape ⊕ Char) :=
  if c == 'u' then some (.inl (.digits 4 0))
  else if c == 'U' then some (.inl (.digits 8 0))
  else (escaped? c).map .inr

/-- Text so far, last character first, that has come to its end. -/
def finish (acc : List Char) : String := String.ofList acc.reverse

/-! ## Strings on one line -/

/-- Reads on between double quotation marks. -/
def scanBasicFrom (acc : List Char) : Escape → List Char → Option (String × List Char)
  | _, [] => none
  | .none, c :: rest =>
    if c == '"' then some (finish acc, rest)
    else if c == '\\' then scanBasicFrom acc .started rest
    else if isText c then scanBasicFrom (c :: acc) .none rest
    else none
  | .started, c :: rest =>
    match afterBackslash? c with
    | some (.inl escape) => scanBasicFrom acc escape rest
    | some (.inr c) => scanBasicFrom (c :: acc) .none rest
    | none => none
  | .digits missing value, c :: rest =>
    match Escape.digit? missing value c with
    | some (.inl escape) => scanBasicFrom acc escape rest
    | some (.inr c) => scanBasicFrom (c :: acc) .none rest
    | none => none

/-- Reads a string on one line between double quotation marks. -/
def scanBasic (cs : List Char) : Option (String × List Char) := scanBasicFrom [] .none cs

/-- Reads a string on one line between single quotation marks. -/
def scanLiteral (cs : List Char) : Option (String × List Char) :=
  let text := cs.takeWhile fun c => isText c && c != '\x27'
  match cs.dropWhile fun c => isText c && c != '\x27' with
  | '\x27' :: rest => some (String.ofList text, rest)
  | _ => none

/-! ## Strings over several lines -/

/-- Whether marks in a row end a string: at least three of them, and two at most before those. -/
def endsAt (marks : Nat) : Bool := 3 ≤ marks && marks ≤ 5

/-- The end of a string at marks in a row, of which all but the last three belong to it. -/
def closeLong (mark : Char) (marks : Nat) (acc rest : List Char) : Option (String × List Char) :=
  if endsAt marks then some (finish (List.replicate (marks - 3) mark ++ acc), rest) else none

/-- Reads on in a string between single quotation marks that may go over several lines. The number
of marks in a row since the last other character comes along. -/
def scanLongLiteralFrom (acc : List Char) (marks : Nat) :
    List Char → Option (String × List Char)
  | [] => closeLong '\x27' marks acc []
  | c :: rest =>
    if c == '\x27' then scanLongLiteralFrom acc (marks + 1) rest
    else if 3 ≤ marks then closeLong '\x27' marks acc (c :: rest)
    else if isText c || c == '\n' then
      scanLongLiteralFrom (c :: (List.replicate marks '\x27' ++ acc)) 0 rest
    else none

/-- Where the reading of a string over several lines stands. -/
inductive LongState where
  /-- In text, after marks in a row. -/
  | marks (count : Nat)
  /-- In an escape. -/
  | escape (e : Escape)
  /-- In the blank space after a backslash, before the end of the line or after it. -/
  | joining (passedBreak : Bool)

/-- Reads on in a string between double quotation marks that may go over several lines. -/
def scanLongBasicFrom (acc : List Char) : LongState → List Char → Option (String × List Char)
  | .marks count, [] => closeLong '"' count acc []
  | _, [] => none
  | .marks count, c :: rest =>
    let acc' := List.replicate count '"' ++ acc
    if c == '"' then scanLongBasicFrom acc (.marks (count + 1)) rest
    else if 3 ≤ count then closeLong '"' count acc (c :: rest)
    else if c == '\\' then scanLongBasicFrom acc' (.escape .started) rest
    else if isText c || c == '\n' then scanLongBasicFrom (c :: acc') (.marks 0) rest
    else none
  | .escape .started, c :: rest =>
    if isSpace c then scanLongBasicFrom acc (.joining false) rest
    else if c == '\n' then scanLongBasicFrom acc (.joining true) rest
    else match afterBackslash? c with
      | some (.inl e) => scanLongBasicFrom acc (.escape e) rest
      | some (.inr c) => scanLongBasicFrom (c :: acc) (.marks 0) rest
      | none => none
  | .escape (.digits missing value), c :: rest =>
    match Escape.digit? missing value c with
    | some (.inl e) => scanLongBasicFrom acc (.escape e) rest
    | some (.inr c) => scanLongBasicFrom (c :: acc) (.marks 0) rest
    | none => none
  | .escape .none, _ :: _ => none
  | .joining passedBreak, c :: rest =>
    if isSpace c then scanLongBasicFrom acc (.joining passedBreak) rest
    else if c == '\n' then scanLongBasicFrom acc (.joining true) rest
    else if !passedBreak then none
    else if c == '"' then scanLongBasicFrom acc (.marks 1) rest
    else if c == '\\' then scanLongBasicFrom acc (.escape .started) rest
    else if isText c then scanLongBasicFrom (c :: acc) (.marks 0) rest
    else none

/-- Text without an end of line in front of it. -/
def dropFirstBreak : List Char → List Char
  | '\n' :: rest => rest
  | cs => cs

/-- Reads a string that may go over several lines between double quotation marks. -/
def scanLongBasic (cs : List Char) : Option (String × List Char) :=
  scanLongBasicFrom [] (.marks 0) (dropFirstBreak cs)

/-- Reads a string that may go over several lines between single quotation marks. -/
def scanLongLiteral (cs : List Char) : Option (String × List Char) :=
  scanLongLiteralFrom [] 0 (dropFirstBreak cs)

/-- Reads a string of any of the four sorts. -/
def scanString : List Char → Option (String × List Char)
  | '"' :: '"' :: '"' :: rest => scanLongBasic rest
  | '"' :: rest => scanBasic rest
  | '\x27' :: '\x27' :: '\x27' :: rest => scanLongLiteral rest
  | '\x27' :: rest => scanLiteral rest
  | _ => none

end SqlFilter.Toml
