/-!
# Sets of code points

A `Ranges` is a set of characters given by the closed intervals of code points it is made of, the
form in which character properties are published. Membership is a search through the intervals,
so that a set can be read off its table in a proof as well as in a run.
-/

namespace SqlFilter.Text

/-- A set of characters, as a list of closed intervals of code points. -/
structure Ranges where
  intervals : List (Nat × Nat)

/-- Whether the character's code point lies in one of the intervals. -/
def Ranges.contains (r : Ranges) (c : Char) : Bool :=
  r.intervals.any fun (first, last) => first ≤ c.toNat && c.toNat ≤ last

/-- The characters below U+0080. -/
def isAscii (c : Char) : Bool := c.toNat < 128

end SqlFilter.Text
