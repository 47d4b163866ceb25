import SqlFilter.Number.Decimal
import SqlFilter.Yaml.Glyph

/-!
# Tokens

What a YAML text consists of, once its indentation has been turned into tokens that open and close
collections. The names among them, of anchors, tags and directives, are read here, since they need
no more than the glyphs in front of them.

## Main definitions

* `Token`, `Directive`, `TagName`.
* `anchorName?`, `tagName?`, `directive?`: read a name, from after the sign that begins it.
-/

namespace SqlFilter.Yaml

/-! ## Kinds of tokens -/

/-- A line in front of a document that says how to read it. -/
inductive Directive where
  | version
  /-- A short form for the beginning of tags. -/
  | handle (name meaning : String)
  deriving DecidableEq, Repr

/-- A tag as written: a short form, empty if there is none, and what follows it. -/
structure TagName where
  handle : String
  suffix : String
  deriving DecidableEq, Repr

/-- A part of a YAML text. -/
inductive Token where
  | directive (d : Directive)
  | documentStart
  | documentEnd
  /-- The first entry of a sequence follows, one entry to a line. -/
  | blockSequence
  /-- The first key of a mapping follows, one key to a line. -/
  | blockMapping
  /-- The innermost of those ends. -/
  | blockEnd
  | openBracket
  | closeBracket
  | openBrace
  | closeBrace
  | comma
  /-- The dash in front of an entry. -/
  | entry
  /-- A key follows, whether or not a question mark says so. -/
  | key
  /-- The colon in front of a value. -/
  | value
  | anchor (name : String)
  | alias (name : String)
  | tag (name : TagName)
  | scalar (isPlain : Bool) (text : String)
  deriving DecidableEq, Repr

/-! ## Anchors -/

/-- Reads the name of an anchor or of an alias. -/
def anchorName? (gs : List Glyph) : Option (String × List Glyph) :=
  let (name, rest) := spanChars isNameChar gs
  if name.isEmpty then none
  else if endsWord rest || startsWithAny "?:,]\x7d%@\x60".toList rest then
    some (String.ofList name, rest)
  else none

/-! ## Tags -/

/-- Characters of tags, and those that only a tag between angle brackets may hold. -/
def isTagChar (inAngles : Bool) (c : Char) : Bool :=
  isNameChar c || ";/?:@&=+$.!~*\x27()%".toList.contains c ||
    (inAngles && ",[]".toList.contains c)

/-- The value of a byte that is written as two hexadecimal digits. -/
def byteValue? (a b : Char) : Option Nat := Number.digitsValue? 16 [a, b]

/-- How many bytes follow the first byte of a character, and the bits that the first one holds. -/
def leadByte? (byte : Nat) : Option (Nat × Nat) :=
  if byte < 0x80 then some (0, byte)
  else if byte < 0xC0 then none
  else if byte < 0xE0 then some (1, byte % 0x20)
  else if byte < 0xF0 then some (2, byte % 0x10)
  else if byte < 0xF8 then some (3, byte % 0x08)
  else none

/-- The character of escaped bytes, which is not an ASCII one if there are several. -/
def ofBytes (value : Nat) : Char :=
  if value < 0x80 then '\ufffd' else Char.ofNat value

/-- The text of a tag with its escapes resolved. A character is escaped byte by byte, each a
percent sign and two digits; `missing` bytes of the current one have not come yet. -/
def unescapeTag (missing value : Nat) : List Char → Option (List Char)
  | [] => if missing = 0 then some [] else none
  | '%' :: a :: b :: rest =>
    match byteValue? a b with
    | none => none
    | some byte =>
      match missing with
      | 0 =>
        match leadByte? byte with
        | none => none
        | some (0, bits) => (unescapeTag 0 0 rest).map (Char.ofNat bits :: ·)
        | some (more + 1, bits) => unescapeTag (more + 1) bits rest
      | last + 1 =>
        if byte / 0x40 = 2 then
          let value := value * 0x40 + byte % 0x40
          if last = 0 then (unescapeTag 0 0 rest).map (ofBytes value :: ·)
          else unescapeTag last value rest
        else none
  | c :: rest =>
    if missing = 0 ∧ c ≠ '%' then (unescapeTag 0 0 rest).map (c :: ·) else none

/-- Reads characters of a tag, at least one if `required`. -/
def tagText? (inAngles required : Bool) (gs : List Glyph) : Option (List Char × List Glyph) :=
  let (cs, rest) := spanChars (isTagChar inAngles) gs
  if required && cs.isEmpty then none
  else (unescapeTag 0 0 cs).map fun cs => (cs, rest)

/-- Reads a short form, from after its first exclamation mark: a name, and another mark or not. -/
def tagHandle (gs : List Glyph) : List Char × Bool × List Glyph :=
  let (name, rest) := spanChars isNameChar gs
  if startsWith '!' rest then (name, true, rest.tail) else (name, false, rest)

/-- Reads a tag without looking at what follows it. -/
def tagBody? (gs : List Glyph) : Option (TagName × List Glyph) :=
  if startsWith '<' gs then
    match tagText? true true gs.tail with
    | some (cs, rest) =>
      if startsWith '>' rest then some (⟨"", String.ofList cs⟩, rest.tail) else none
    | none => none
  else
    match tagHandle gs with
    | (name, true, rest) =>
      (tagText? false true rest).map fun (cs, rest) =>
        (⟨String.ofList ('!' :: name ++ ['!']), String.ofList cs⟩, rest)
    | (name, false, rest) =>
      (tagText? false false rest).map fun (cs, rest) =>
        let suffix := String.ofList (name ++ cs)
        (if suffix = "" then ⟨"", "!"⟩ else ⟨"!", suffix⟩, rest)

/-- Reads a tag, from after its exclamation mark. A blank or the end of the line must follow, or a
comma between brackets. -/
def tagName? (inFlow : Bool) (gs : List Glyph) : Option (TagName × List Glyph) :=
  match tagBody? gs with
  | some (tag, rest) =>
    if endsWord rest || (inFlow && startsWith ',' rest) then some (tag, rest) else none
  | none => none

/-! ## Directives -/

/-- Glyphs from the first that is no blank. -/
def skipSpaces (gs : List Glyph) : List Glyph := gs.dropWhile fun g => isSpace g.char

/-- Reads a number of at most nine digits. -/
def versionPart? (gs : List Glyph) : Option (Nat × List Glyph) :=
  let (digits, rest) := spanChars Char.isDigit gs
  if 9 < digits.length then none
  else (Number.digitsValue? 10 digits).map fun n => (n, rest)

/-- Reads a version number, of which this package knows 1.1 and 1.2. -/
def version? (gs : List Glyph) : Option (List Glyph) :=
  match versionPart? gs with
  | some (1, rest) =>
    if startsWith '.' rest then
      match versionPart? rest.tail with
      | some (1, rest) => some rest
      | some (2, rest) => some rest
      | _ => none
    else none
  | _ => none

/-- Reads a short form and what it stands for. -/
def handleMeaning? (gs : List Glyph) : Option (Directive × List Glyph) :=
  if startsWith '!' gs then
    let (name, isClosed, rest) := tagHandle gs.tail
    if !isClosed && !name.isEmpty then none
    else if rest.isEmpty || !endsWord rest then none
    else
      match tagText? true true (skipSpaces rest) with
      | some (meaning, rest) =>
        if endsWord rest then
          let handle := '!' :: name ++ (if isClosed then ['!'] else [])
          some (.handle (String.ofList handle) (String.ofList meaning), rest)
        else none
      | none => none
  else none

/-- Leaves the rest of a line out: blanks, a comment, and the end of the line. -/
def finishLine? (gs : List Glyph) : Option (List Glyph) :=
  let gs := skipSpaces gs
  let gs := if startsWith '#' gs then gs.dropWhile (fun g => !isBreak g.char) else gs
  if endsLine gs then some gs.tail else none

/-- Reads a directive to the end of its line, from after its percent sign. -/
def directive? (gs : List Glyph) : Option (Directive × List Glyph) :=
  let (name, rest) := spanChars isNameChar gs
  if !endsWord rest then none
  else
    let body := skipSpaces rest
    let parsed :=
      if name = "YAML".toList then (version? body).map fun rest => (Directive.version, rest)
      else if name = "TAG".toList then handleMeaning? body
      else none
    match parsed with
    | some (d, rest) => (finishLine? rest).map fun rest => (d, rest)
    | none => none

end SqlFilter.Yaml
