import SqlFilter.Toml.Scalar
import SqlFilter.Toml.Text

/-!
# TOML documents

A document is a list of lines: blank ones, headers, and keys with their values. A value may go over
several lines if it is an array or a long string. Arrays and tables in braces may be nested fewer
than 80 deep, and no key has 80 parts.

## Main definitions

* `scanKeys`: a key, dotted or not.
* `scanValue`: a value.
* `Table.ofText?`: the table that a document is.
-/

namespace SqlFilter.Toml

/-! ## Blank space -/

/-- Text with a line feed in the place of each carriage return that has a line feed after it. -/
def joinBreaks : List Char → List Char
  | [] => []
  | '\r' :: '\n' :: rest => '\n' :: joinBreaks rest
  | c :: rest => c :: joinBreaks rest

/-- Text from the first character that is no blank. -/
def skipSpaces (cs : List Char) : List Char := cs.dropWhile isSpace

/-- Text from the end of a line on, without the comment before it. -/
def skipComment (cs : List Char) : List Char :=
  match cs with
  | '#' :: rest => rest.dropWhile isText
  | _ => cs

/-- Text after the end of a line that holds nothing more than a comment. -/
def finishLine (cs : List Char) : Option (List Char) :=
  match skipComment (skipSpaces cs) with
  | [] => some []
  | '\n' :: rest => some rest
  | _ => none

/-- Text after blanks, ends of lines and comments that have an end of line after them. -/
def skipLines (inComment : Bool) : List Char → List Char
  | [] => []
  | c :: rest =>
    if c == '\n' then skipLines false rest
    else if inComment then if isText c then skipLines true rest else c :: rest
    else if isSpace c then skipLines false rest
    else if c == '#' then skipLines true rest
    else c :: rest

/-! ## Keys -/

/-- Characters of keys without marks. -/
def isKeyChar (c : Char) : Bool := c.isAlphanum || c == '_' || c == '-'

/-- Reads one part of a key. -/
def scanKey (cs : List Char) : Option (String × List Char) :=
  match cs with
  | '"' :: rest => scanBasic rest
  | '\x27' :: rest => scanLiteral rest
  | _ =>
    let key := cs.takeWhile isKeyChar
    if key.isEmpty then none else some (String.ofList key, cs.dropWhile isKeyChar)

/-- Reads the parts of a key with dots between them, and the blanks around them. -/
def scanKeysFrom : Nat → List Char → Option (List String × List Char)
  | 0, _ => none
  | fuel + 1, cs => do
    let (key, rest) ← scanKey (skipSpaces cs)
    match skipSpaces rest with
    | '.' :: rest =>
      let (keys, rest) ← scanKeysFrom fuel rest
      return (key :: keys, rest)
    | rest => return ([key], rest)

/-- How deep arrays and tables may be nested, and how many parts a key may have, less one. -/
def maxDepth : Nat := 79

/-- Reads a key: the parts before the last one, and that. -/
def scanKeys (cs : List Char) : Option (List String × String × List Char) := do
  let (keys, rest) ← scanKeysFrom maxDepth cs
  return (keys.dropLast, ← keys.getLast?, rest)

/-! ## Values -/

mutual
/-- Reads a value, inside so many arrays and tables. -/
def scanValue (depth : Nat) : Nat → List Char → Option (Value × List Char)
  | 0, _ => none
  | fuel + 1, cs =>
    match cs with
    | '[' :: rest =>
      if depth < maxDepth then
        (scanItems (depth + 1) fuel rest).map fun (items, rest) => (.array items, rest)
      else none
    | '\x7b' :: rest =>
      if depth < maxDepth then
        match skipSpaces rest with
        | '\x7d' :: rest => some (.table .braces [], rest)
        | rest =>
          (scanEntries (depth + 1) [] fuel rest).map fun (t, rest) => (.table .braces t, rest)
      else none
    | c :: _ =>
      if c == '"' || c == '\x27' then (scanString cs).map fun (s, rest) => (.string s, rest)
      else scanBare cs
    | [] => none

/-- Reads the items of an array to its closing bracket. A comma may stand after the last one. -/
def scanItems (depth : Nat) : Nat → List Char → Option (List Value × List Char)
  | 0, _ => none
  | fuel + 1, cs =>
    match skipLines false cs with
    | ']' :: rest => some ([], rest)
    | cs => do
      let (item, rest) ← scanValue depth fuel cs
      match skipLines false rest with
      | ',' :: rest =>
        let (items, rest) ← scanItems depth fuel rest
        return (item :: items, rest)
      | ']' :: rest => return ([item], rest)
      | _ => none

/-- Reads the entries of a table in braces to the closing one, at least one entry. -/
def scanEntries (depth : Nat) (t : Table) : Nat → List Char → Option (Table × List Char)
  | 0, _ => none
  | fuel + 1, cs => do
    let (keys, key, rest) ← scanKeys cs
    match rest with
    | '=' :: rest =>
      let (value, rest) ← scanValue depth fuel (skipSpaces rest)
      let t ← t.define keys key value .braces
      match skipSpaces rest with
      | ',' :: rest => scanEntries depth t fuel rest
      | '\x7d' :: rest => return (t, rest)
      | _ => none
    | _ => none
end

/-! ## Lines -/

/-- A document as far as it has been read: its table, and the keys of the last header. -/
structure Draft where
  table : Table
  header : List String

/-- Reads a header, from after its brackets. -/
def scanHeader (isShared : Bool) (d : Draft) (cs : List Char) : Option (Draft × List Char) := do
  let (keys, key, rest) ← scanKeys cs
  let table ← if isShared then d.table.appendTable keys key else d.table.openTable keys key
  let rest ← match rest, isShared with
    | ']' :: ']' :: rest, true => some rest
    | ']' :: rest, false => some rest
    | _, _ => none
  return (⟨table, keys ++ [key]⟩, ← finishLine rest)

/-- Reads a key and its value. -/
def scanBinding (d : Draft) (cs : List Char) : Option (Draft × List Char) := do
  let (keys, key, rest) ← scanKeys cs
  match rest with
  | '=' :: rest =>
    let (value, rest) ← scanValue 0 (2 * cs.length + 2) (skipSpaces rest)
    let table ← d.table.defineUnder d.header keys key value
    return ({ d with table }, ← finishLine rest)
  | _ => none

/-- Reads what begins on a line. -/
def scanLine (d : Draft) (cs : List Char) : Option (Draft × List Char) :=
  match skipSpaces cs with
  | [] => some (d, [])
  | '\n' :: rest => some (d, rest)
  | '#' :: rest => (finishLine ('#' :: rest)).map fun rest => (d, rest)
  | '[' :: '[' :: rest => scanHeader true d rest
  | '[' :: rest => scanHeader false d rest
  | rest => scanBinding d rest

/-- Reads lines to the end of the document. -/
def scanLines (d : Draft) (cs : List Char) : Option Draft :=
  if cs.isEmpty then some d
  else
    match scanLine d cs with
    | some (d, rest) => if rest.length < cs.length then scanLines d rest else none
    | none => none
termination_by cs.length

/-- The table that a document is. A byte order mark may stand in front of it. -/
def Table.ofText? (text : String) : Option Table :=
  let cs := match text.toList with
    | c :: rest => if c.toNat = 0xFEFF then rest else c :: rest
    | [] => []
  (scanLines ⟨[], []⟩ (joinBreaks cs)).map Draft.table

end SqlFilter.Toml
