import SqlFilter.Yaml.Layout

/-!
# Trees

The tree that the tokens of a text spell, with its tags, anchors and aliases. Where a key, a value
or an entry is missing, an empty scalar stands in its place.

Anchors are numbered when they come up, by how many names are known by then; a name that comes up
again takes a new number. An alias has the number that its name has at that point, so that every
alias in a tree leads to an anchor somewhere in it.

Reading is recursive descent over the tokens. A call that reads no token leads to one that does
within two more calls, which is where the fuel that `document?` starts with comes from.

## Main definitions

* `Tree`: scalars, sequences, mappings and aliases.
* `document?`: the document in a text; a text may have none, but not several.
-/

namespace SqlFilter.Yaml

/-- What an anchor and a tag add to a node. -/
structure Properties where
  anchor : Option Nat
  tag : Option String
  deriving DecidableEq, Repr

/-- A node as written. -/
inductive Tree where
  | alias (anchor : Nat)
  | scalar (properties : Properties) (isPlain : Bool) (text : String)
  | sequence (properties : Properties) (items : List Tree)
  | mapping (properties : Properties) (entries : List (Tree × Tree))

/-- What stands where nothing is written. -/
def Tree.missing : Tree := .scalar ⟨none, none⟩ true ""

/-! ## Reading tokens -/

/-- The tokens that are left, with the names and short forms that are known. -/
structure Remaining where
  tokens : List Token
  /-- The number of each name of an anchor. -/
  anchors : List (String × Nat)
  /-- What the short forms of tags stand for. -/
  handles : List (String × String)

/-- A step that reads tokens, or fails. -/
abbrev Reading := StateT Remaining Option

/-- The next token, which is not read. -/
def peek : Reading (Option Token) := do return (← get).tokens.head?

/-- Passes the next token. -/
def pass : Reading Unit := modify fun r => { r with tokens := r.tokens.tail }

/-- Whether the next token is one of some tokens; the end of the text is none. -/
def nextIsAny (ts : List Token) : Reading Bool := do
  return match ← peek with
    | some t => ts.contains t
    | none => false

/-- Passes a token that has to be there. -/
def expect (t : Token) : Reading Unit := do
  if ← nextIsAny [t] then pass else failure

/-- Binds a key in a list of pairs, in the place of its old binding if there is one. -/
def rebind {α : Type} (key : String) (value : α) : List (String × α) → List (String × α)
  | [] => [(key, value)]
  | (k, v) :: rest => if k = key then (key, value) :: rest else (k, v) :: rebind key value rest

/-- Numbers an anchor that comes up. -/
def declareAnchor (name : String) : Reading Nat := do
  let number := (← get).anchors.length
  modify fun r => { r with anchors := rebind name number r.anchors }
  return number

/-- The whole tag that a written one stands for. -/
def resolveTag (tag : TagName) : Reading String := do
  if tag.handle = "" then return tag.suffix
  else match (← get).handles.lookup tag.handle with
    | some meaning => return meaning ++ tag.suffix
    | none => failure

/-- An anchor and a tag in front of a node, in either order, each of them optional. -/
def properties : Reading (Option String × Option String) := do
  match ← peek with
  | some (.anchor name) =>
    pass
    match ← peek with
    | some (.tag tag) => pass; return (some name, some (← resolveTag tag))
    | _ => return (some name, none)
  | some (.tag tag) =>
    pass
    match ← peek with
    | some (.anchor name) => pass; return (some name, some (← resolveTag tag))
    | _ => return (none, some (← resolveTag tag))
  | _ => return (none, none)

/-- Whether a node outside brackets is missing: the entry or mapping it belongs to goes on or
ends. -/
def nodeIsMissing (more : List Token) : Reading Bool := nextIsAny (.blockEnd :: more)

/-! ## Nodes -/

/-- Where a node stands, which decides what it may be. -/
inductive Site where
  /-- Between brackets, where indentation opens nothing. -/
  | flow
  | block
  /-- In a mapping outside brackets, where the dashes of a sequence need no indentation. -/
  | inMapping
  deriving DecidableEq, Repr

mutual
/-- Reads a node. -/
def readNode (site : Site) : Nat → Reading Tree
  | 0 => failure
  | fuel + 1 => do
    if let some (.alias name) ← peek then
      pass
      match (← get).anchors.lookup name with
      | some number => return .alias number
      | none => failure
    let (name, tag) ← properties
    let anchor ← name.mapM declareAnchor
    match ← peek with
    | some (.scalar isPlain text) =>
      pass
      return .scalar ⟨anchor, if tag = some "!" then none else tag⟩ isPlain text
    | some .openBracket =>
      pass
      return .sequence ⟨anchor, tag⟩ (← readFlowItems true fuel)
    | some .openBrace =>
      pass
      return .mapping ⟨anchor, tag⟩ (← readFlowEntries true fuel)
    | some .blockSequence =>
      if site = .flow then failure
      pass
      return .sequence ⟨anchor, tag⟩ (← readBlockItems fuel)
    | some .blockMapping =>
      if site = .flow then failure
      pass
      return .mapping ⟨anchor, tag⟩ (← readBlockEntries fuel)
    | some .entry =>
      if site = .inMapping then return .sequence ⟨anchor, tag⟩ (← readDashedItems fuel)
      else if name.isSome || tag.isSome then return .scalar ⟨anchor, tag⟩ true ""
      else failure
    | _ =>
      if name.isSome || tag.isSome then return .scalar ⟨anchor, tag⟩ true "" else failure

/-- Reads the items of a sequence in brackets, to the closing one. -/
def readFlowItems (isFirst : Bool) : Nat → Reading (List Tree)
  | 0 => failure
  | fuel + 1 => do
    if ← nextIsAny [.closeBracket] then pass; return []
    unless isFirst do expect .comma
    if ← nextIsAny [.closeBracket] then pass; return []
    if ← nextIsAny [.key] then
      pass
      let key ←
        if ← nextIsAny [.value, .comma, .closeBracket] then pure .missing else readNode .flow fuel
      let value ← readFlowValue [.comma, .closeBracket] fuel
      return .mapping ⟨none, none⟩ [(key, value)] :: (← readFlowItems false fuel)
    else
      let item ← readNode .flow fuel
      return item :: (← readFlowItems false fuel)

/-- Reads the entries of a mapping in braces, to the closing one. A node that is no key of its
own has no value. -/
def readFlowEntries (isFirst : Bool) : Nat → Reading (List (Tree × Tree))
  | 0 => failure
  | fuel + 1 => do
    if ← nextIsAny [.closeBrace] then pass; return []
    unless isFirst do expect .comma
    if ← nextIsAny [.closeBrace] then pass; return []
    if ← nextIsAny [.key] then
      pass
      let key ←
        if ← nextIsAny [.value, .comma, .closeBrace] then pure .missing else readNode .flow fuel
      let value ← readFlowValue [.comma, .closeBrace] fuel
      return (key, value) :: (← readFlowEntries false fuel)
    else
      let key ← readNode .flow fuel
      return (key, .missing) :: (← readFlowEntries false fuel)

/-- Reads a value between brackets, if there is one. -/
def readFlowValue (ends : List Token) : Nat → Reading Tree
  | 0 => failure
  | fuel + 1 => do
    if ← nextIsAny [.value] then
      pass
      if ← nextIsAny ends then return .missing else readNode .flow fuel
    else return .missing

/-- Reads the items of an indented sequence, to its end. -/
def readBlockItems : Nat → Reading (List Tree)
  | 0 => failure
  | fuel + 1 => do
    if ← nextIsAny [.entry] then
      pass
      let item ← if ← nodeIsMissing [.entry] then pure .missing else readNode .block fuel
      return item :: (← readBlockItems fuel)
    else
      expect .blockEnd
      return []

/-- Reads the items of a sequence that is not indented past the mapping it stands in. -/
def readDashedItems : Nat → Reading (List Tree)
  | 0 => failure
  | fuel + 1 => do
    if ← nextIsAny [.entry] then
      pass
      let item ←
        if ← nodeIsMissing [.entry, .key, .value] then pure .missing else readNode .block fuel
      return item :: (← readDashedItems fuel)
    else return []

/-- Reads the entries of an indented mapping, to its end. -/
def readBlockEntries : Nat → Reading (List (Tree × Tree))
  | 0 => failure
  | fuel + 1 => do
    if ← nextIsAny [.key] then
      pass
      let key ← if ← nodeIsMissing [.key, .value] then pure .missing else readNode .inMapping fuel
      let value ←
        if ← nextIsAny [.value] then
          pass
          if ← nodeIsMissing [.key, .value] then pure .missing else readNode .inMapping fuel
        else pure .missing
      return (key, value) :: (← readBlockEntries fuel)
    else
      expect .blockEnd
      return []
end

/-! ## Documents -/

/-- The short forms that are known without a directive. -/
def defaultHandles : List (String × String) := [("!", "!"), ("!!", "tag:yaml.org,2002:")]

/-- Reads directives, of which none may come twice. Directives may change the known short
forms. -/
def readDirectives : Nat → Bool → List (String × String) → Reading Unit
  | 0, _, _ => failure
  | fuel + 1, hasVersion, handles => do
    match ← peek with
    | some (.directive .version) =>
      if hasVersion then failure
      pass
      readDirectives fuel true handles
    | some (.directive (.handle name meaning)) =>
      if (handles.lookup name).isSome then failure
      pass
      readDirectives fuel hasVersion ((name, meaning) :: handles)
    | _ =>
      modify fun r => { r with handles := handles ++ defaultHandles }

/-- Whether a document has come to its end. -/
def documentIsOver : Reading Bool := do
  return match ← peek with
    | none | some .documentStart | some .documentEnd | some (.directive _) => true
    | _ => false

/-- Passes the marks at the end of a document, which may be repeated. -/
def passEnds : Reading Unit :=
  modify fun r => { r with tokens := r.tokens.dropWhile (· == .documentEnd) }

/-- Reads a document: its directives and the mark in front of it, or neither, and its root. -/
def readDocument (fuel : Nat) : Reading (Option Tree) := do
  match ← peek with
  | none => return none
  | some (.directive _) | some .documentStart =>
    readDirectives fuel false []
    expect .documentStart
    let root ← if ← documentIsOver then pure .missing else readNode .block fuel
    passEnds
    return some root
  | _ =>
    let root ← readNode .block fuel
    passEnds
    return some root

/-- The document in a text, and none at all if there is nothing in the text. It is a failure if
the text is broken or goes on after the document. -/
def document? (text : String) : Option (Option Tree) :=
  match tokens? text with
  | none => none
  | some tokens =>
    match readDocument (4 * tokens.length + 4) ⟨tokens, [], defaultHandles⟩ with
    | some (root, rest) => if rest.tokens.isEmpty then some root else none
    | none => none

end SqlFilter.Yaml
