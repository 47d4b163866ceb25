import SqlFilter.Yaml.Scalar

/-!
# Layout

Turns glyphs into tokens. Outside brackets, collections are opened and closed by indentation, and
this module decides where; inside brackets indentation means nothing.

A key of a mapping can be told only by the colon after it. So wherever a key could begin, the place
is kept as a `Candidate`, and when the colon comes on the same line the `key` token is put in at
that place, with the `blockMapping` token before it if the key is the first of its mapping. A
candidate at the column of the mapping's own keys has to turn out to be one.

The indentation of the innermost collection is kept as its `margin`, one more than the column of
its entries, so that zero is the margin of the text outside all collections.

## Main definitions

* `Layout`: how far the reading has come.
* `Layout.next`: reads one token, from its first glyph.
* `tokens?`: the tokens of a text.
-/

namespace SqlFilter.Yaml

/-! ## The state of the reading -/

/-- A place where a key may have begun. -/
structure Candidate where
  /-- Whether nothing else can stand there. -/
  isRequired : Bool
  /-- How many tokens come before it. -/
  position : Nat
  line : Nat
  column : Nat

/-- How far behind its colon a key may begin. -/
def maxKeyLength : Nat := 1024

/-- Whether a key cannot have begun at a place any more: it is on an earlier line, or too far
behind. -/
def Candidate.isStale (c : Candidate) (g : Glyph) : Bool :=
  decide (c.line < g.line) || decide (c.column + maxKeyLength < g.column)

/-- How far the reading of a text has come. -/
structure Layout where
  /-- The tokens so far, last one first. -/
  tokens : List Token
  /-- How many tokens there are. -/
  count : Nat
  /-- The column that the innermost block must reach to go on. -/
  margin : Nat
  /-- The margins of the blocks around it. -/
  outer : List Nat
  /-- Whether a key may begin here. -/
  keyAllowed : Bool
  /-- The last place where a key may have begun, between the innermost brackets. -/
  candidate : Option Candidate
  /-- The same for each of the brackets around those. -/
  suspended : List (Option Candidate)

namespace Layout

/-- The reading before the first token. -/
def start : Layout := ⟨[], 0, 0, [], true, none, []⟩

/-- Whether the reading is between brackets. -/
def inFlow (l : Layout) : Bool := !l.suspended.isEmpty

/-- One more token. -/
def push (t : Token) (l : Layout) : Layout :=
  { l with tokens := t :: l.tokens, count := l.count + 1 }

/-- Says whether a key may begin next. -/
def allowKey (b : Bool) (l : Layout) : Layout := { l with keyAllowed := b }

/-! ## Blocks -/

/-- Closes blocks until the margin is at most a given one, or only the outermost is left. -/
def closeBlocks (limit : Nat) : List Nat → Layout → Layout
  | [], l => l
  | margin :: outer, l =>
    if limit < l.margin then closeBlocks limit outer { l.push .blockEnd with margin, outer } else l

/-- Closes the blocks that cannot hold a column; inside brackets there are none to close. -/
def closeTo (limit : Nat) (l : Layout) : Layout :=
  if l.inFlow then l else closeBlocks limit l.outer l

/-- Whether a column begins a block of its own. -/
def opensBlock (l : Layout) (column : Nat) : Bool := !l.inFlow && decide (l.margin ≤ column)

/-- Opens a block at a column, unless it belongs to the innermost one. -/
def openBlock (t : Token) (column : Nat) (l : Layout) : Layout :=
  if l.opensBlock column then
    { l.push t with margin := column + 1, outer := l.margin :: l.outer }
  else l

/-! ## Keys -/

/-- Gives the candidate up, which must not be a required one. -/
def dropCandidate (l : Layout) : Option Layout :=
  match l.candidate with
  | some c => if c.isRequired then none else some { l with candidate := none }
  | none => some l

/-- Keeps a place where a key may begin, if one may. -/
def noteCandidate (g : Glyph) (l : Layout) : Option Layout :=
  if l.keyAllowed then
    l.dropCandidate.map fun l =>
      { l with
        candidate := some
          ⟨!l.inFlow && l.margin == g.column + 1, l.count, g.line, g.column⟩ }
  else some l

/-- A candidate unless it is stale, which must not happen to a required one. -/
def refresh (g : Glyph) : Option Candidate → Option (Option Candidate)
  | none => some none
  | some c => if c.isStale g then (if c.isRequired then none else some none) else some (some c)

/-- Gives up the candidates that are stale. -/
def dropStale (g : Glyph) (l : Layout) : Option Layout := do
  let candidate ← refresh g l.candidate
  let suspended ← l.suspended.mapM (refresh g)
  return { l with candidate, suspended }

/-- Puts tokens in at a place, given in their order. -/
def insertAt (position : Nat) (new : List Token) (l : Layout) : Layout :=
  let after := l.count - position
  { l with
    tokens := l.tokens.take after ++ new.reverse ++ l.tokens.drop after
    count := l.count + new.length }

/-- The colon after a key that began at a candidate. -/
def settleKey (c : Candidate) (l : Layout) : Layout :=
  let keyed :=
    if l.opensBlock c.column then
      { l.insertAt c.position [.blockMapping, .key] with
        margin := c.column + 1
        outer := l.margin :: l.outer }
    else l.insertAt c.position [.key]
  { keyed.push .value with candidate := none, keyAllowed := false }

/-- A colon with no key on its line before it. -/
def bareValue (g : Glyph) (l : Layout) : Option Layout :=
  if l.inFlow then some ((l.allowKey false).push .value)
  else if l.keyAllowed then
    some (((l.openBlock .blockMapping g.column).allowKey true).push .value)
  else none

/-- The colon in front of a value. -/
def value (g : Glyph) (l : Layout) : Option Layout :=
  match l.candidate with
  | some c => some (l.settleKey c)
  | none => l.bareValue g

/-- The question mark in front of a key. -/
def explicitKey (g : Glyph) (l : Layout) : Option Layout :=
  if l.inFlow then l.dropCandidate.map fun l => (l.allowKey false).push .key
  else if l.keyAllowed then
    (l.openBlock .blockMapping g.column).dropCandidate.map fun l => (l.allowKey true).push .key
  else none

/-! ## Other tokens -/

/-- The dash in front of an entry. -/
def entry (g : Glyph) (l : Layout) : Option Layout :=
  if l.inFlow then l.dropCandidate.map fun l => (l.allowKey true).push .entry
  else if l.keyAllowed then
    (l.openBlock .blockSequence g.column).dropCandidate.map fun l => (l.allowKey true).push .entry
  else none

/-- An opening bracket. -/
def openFlow (t : Token) (g : Glyph) (l : Layout) : Option Layout :=
  (l.noteCandidate g).map fun l =>
    { l.push t with
      candidate := none
      suspended := l.candidate :: l.suspended
      keyAllowed := true }

/-- A closing bracket. One too many is left for later to refuse. -/
def closeFlow (t : Token) (l : Layout) : Option Layout :=
  l.dropCandidate.map fun l =>
    let (candidate, suspended) := match l.suspended with
      | c :: rest => (c, rest)
      | [] => (l.candidate, [])
    { l.push t with candidate, suspended, keyAllowed := false }

/-- The comma between entries. -/
def comma (l : Layout) : Option Layout :=
  l.dropCandidate.map fun l => (l.allowKey true).push .comma

/-- A directive or the mark of a document, which closes all blocks. -/
def betweenDocuments (t : Token) (l : Layout) : Option Layout :=
  (l.closeTo 0).dropCandidate.map fun l => (l.allowKey false).push t

/-- A scalar, anchor, alias or tag, which may begin a key. -/
def mayBeKey (t : Token) (g : Glyph) (l : Layout) : Option Layout :=
  (l.noteCandidate g).map fun l => (l.allowKey false).push t

/-- A block of lines, which is no key. -/
def block (text : String) (l : Layout) : Option Layout :=
  l.dropCandidate.map fun l => (l.allowKey true).push (.scalar false text)

/-! ## Reading a token -/

/-- Characters that a scalar without marks does not begin with. -/
def isIndicator (c : Char) : Bool := "-?:,[]\x7b\x7d#&*!|>\x27\"%@\x60".toList.contains c

/-- Whether a scalar without marks may begin with a character. -/
def beginsPlain (l : Layout) (c : Char) (rest : List Glyph) : Bool :=
  !isIndicator c || (c == '-' && !endsWord rest) ||
    (!l.inFlow && (c == '?' || c == ':') && !endsWord rest)

/-- A scalar without marks. If the reading went past the end of a line, a key may follow. -/
def plain (g : Glyph) (rest : List Glyph) (l : Layout) : Option (Layout × List Glyph) := do
  let scanned ← scanPlain ⟨l.inFlow, l.margin⟩ (g :: rest)
  let l ← l.mayBeKey (.scalar true scanned.text) g
  return (if scanned.passedBreak then l.allowKey true else l, scanned.rest)

/-- Reads a token that begins with an indicator, or a scalar without marks. -/
def other (g : Glyph) (rest : List Glyph) (l : Layout) : Option (Layout × List Glyph) :=
  let keep (l : Option Layout) : Option (Layout × List Glyph) := l.map fun l => (l, rest)
  let mark := l.inFlow || endsWord rest
  match g.char with
  | '[' => keep (l.openFlow .openBracket g)
  | '\x7b' => keep (l.openFlow .openBrace g)
  | ']' => keep (l.closeFlow .closeBracket)
  | '\x7d' => keep (l.closeFlow .closeBrace)
  | ',' => keep l.comma
  | '*' => do
    let (name, rest) ← anchorName? rest
    return (← l.mayBeKey (.alias name) g, rest)
  | '&' => do
    let (name, rest) ← anchorName? rest
    return (← l.mayBeKey (.anchor name) g, rest)
  | '!' => do
    let (name, rest) ← tagName? l.inFlow rest
    return (← l.mayBeKey (.tag name) g, rest)
  | '\x27' => do
    let (text, rest) ← scanSingle rest
    return (← l.mayBeKey (.scalar false text) g, rest)
  | '"' => do
    let (text, rest) ← scanDouble rest
    return (← l.mayBeKey (.scalar false text) g, rest)
  | c =>
    if c == '-' && endsWord rest then keep (l.entry g)
    else if c == '?' && mark then keep (l.explicitKey g)
    else if c == ':' && mark then keep (l.value g)
    else if (c == '|' || c == '>') && !l.inFlow then do
      let (text, rest) ← scanBlock (c == '>') l.margin rest
      return (← l.block text, rest)
    else if l.beginsPlain c rest then l.plain g rest
    else none

/-- Reads one token, from its first glyph. -/
def next (g : Glyph) (rest : List Glyph) (l : Layout) : Option (Layout × List Glyph) := do
  let l := (← l.dropStale g).closeTo (g.column + 1)
  if g.column = 0 ∧ g.char = '%' then
    let (d, rest) ← directive? rest
    return (← l.betweenDocuments (.directive d), rest)
  else if atMarkerOf '-' (g :: rest) then
    return (← l.betweenDocuments .documentStart, rest.drop 2)
  else if atMarkerOf '.' (g :: rest) then
    return (← l.betweenDocuments .documentEnd, rest.drop 2)
  else l.other g rest

/-! ## Reading a text -/

/-- Leaves out what stands between tokens: blanks, comments and ends of lines. Where a key may
begin outside brackets, a tab is not left out, since it would take the place of indentation.
Answers whether a key may begin after that. -/
def skipBlanks (inFlow : Bool) : Bool → Bool → List Glyph → Bool × List Glyph
  | keyAllowed, _, [] => (keyAllowed, [])
  | keyAllowed, inComment, g :: rest =>
    if isBreak g.char then skipBlanks inFlow (keyAllowed || !inFlow) false rest
    else if inComment then skipBlanks inFlow keyAllowed true rest
    else if g.char == ' ' || (g.char == '\t' && (inFlow || !keyAllowed)) then
      skipBlanks inFlow keyAllowed false rest
    else if g.char == '#' then skipBlanks inFlow keyAllowed true rest
    else (keyAllowed, g :: rest)

/-- The tokens at the end of the text, where all blocks are closed. -/
def finish (l : Layout) : Option (List Token) :=
  (l.closeTo 0).dropCandidate.map fun l => l.tokens.reverse

/-- Reads tokens to the end of the text, at most so many. -/
def run : Nat → Layout → List Glyph → Option (List Token)
  | most, l, gs =>
    match skipBlanks l.inFlow l.keyAllowed false gs, most with
    | (keyAllowed, []), _ => ({ l with keyAllowed } : Layout).finish
    | _, 0 => none
    | (keyAllowed, g :: rest), most + 1 =>
      match ({ l with keyAllowed } : Layout).next g rest with
      | none => none
      | some (l, left) => run most l left

end Layout

/-- The tokens of a text. Each of them takes a glyph at least, so there are not more of them. -/
def tokens? (text : String) : Option (List Token) :=
  match Glyph.ofText? text with
  | some gs => Layout.run gs.length .start gs
  | none => none

end SqlFilter.Yaml
