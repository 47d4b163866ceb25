/-!
# Gaps between words

A scalar may be broken over several lines. What stands between two of its words is a gap, and the
gap decides what the words are joined with: blanks on one line stay as they are; a single end of
line becomes a blank; of several ends of lines the first is dropped and the others stay; blanks
beside an end of line are dropped.

The line and paragraph separators are never dropped.
-/

namespace SqlFilter.Yaml

/-- What stands between two words. -/
inductive Gap where
  /-- Blanks on one line, maybe none. -/
  | spaces (passed : List Char)
  /-- The end of a line, left out if it was escaped, and the ends of the lines after it. -/
  | lines (first : Option Char) (more : List Char)
  deriving DecidableEq, Repr

namespace Gap

/-- The gap with nothing in it. -/
def none : Gap := .spaces []

/-- Whether there is nothing in the gap. -/
def isEmpty : Gap → Bool
  | .spaces passed => passed.isEmpty
  | .lines _ _ => false

/-- Whether the gap goes past the end of a line. -/
def hasBreak : Gap → Bool
  | .spaces _ => false
  | .lines _ _ => true

/-- The gap with one more blank in it. -/
def space (c : Char) : Gap → Gap
  | .spaces passed => .spaces (passed ++ [c])
  | .lines first more => .lines first more

/-- The gap with one more end of line in it. -/
def line (c : Char) : Gap → Gap
  | .spaces _ => .lines (some c) []
  | .lines first more => .lines first (more ++ [c])

/-- What the words around the gap are joined with. -/
def text : Gap → List Char
  | .spaces passed => passed
  | .lines (some '\n') [] => [' ']
  | .lines (some '\n') more => more
  | .lines first more => first.toList ++ more

end Gap

end SqlFilter.Yaml
