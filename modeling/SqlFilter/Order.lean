import SqlFilter.Column
import SqlFilter.Order.Denylist
import SqlFilter.Text.Space

/-!
# Sort requests

A sort request is a text `order[column]=direction`, or a direction alone for a column that is
already known. Its column comes from outside and ends up in SQL text, so it is accepted only after
three checks: it holds nothing denied as it was written, it holds nothing denied as a column name,
and as a column name it is an ASCII identifier. The first check comes before the change of case
because that turns hyphens and blanks into underscores.

## Main definitions

* `Direction.ofText?`: `asc` or `desc`.
* `Order.parse?`: the two parts of a request, whatever they hold.
* `Order.guard?`: the request, if it is accepted.
-/

namespace SqlFilter

/-- Which way to sort. -/
inductive Direction where
  | asc
  | desc
  deriving DecidableEq, Repr

/-- The SQL word for a direction. -/
def Direction.name : Direction → String
  | .asc => "asc"
  | .desc => "desc"

/-- The direction that a text names, in any ASCII case and with blanks around it. -/
def Direction.ofText? (text : String) : Option Direction :=
  let word := Text.asciiLower (Text.trim text)
  if word = "asc" then some .asc else if word = "desc" then some .desc else none

@[simp] theorem Direction.ofText?_name (d : Direction) : ofText? d.name = some d := by
  cases d <;> decide

/-- An accepted request: a column and a direction. -/
structure Order where
  column : String
  direction : Direction
  deriving DecidableEq, Repr

namespace Order

/-! ## The two parts of a request -/

/-- What follows a prefix that the text starts with. -/
def afterPrefix? : List Char → List Char → Option (List Char)
  | [], rest => some rest
  | _ :: _, [] => none
  | p :: ps, c :: cs => if p = c then afterPrefix? ps cs else none

/-- The text between `order[` and the first `]`, and the text after the `=` that must follow it.
Neither may be empty, and the second holds no further `=`. -/
def splitRequest? (text : List Char) : Option (List Char × List Char) :=
  match afterPrefix? "order[".toList text with
  | none => none
  | some rest =>
    match Text.cutChars ']' rest with
    | some (column, '=' :: direction) =>
      if column = [] ∨ direction = [] ∨ '=' ∈ direction then none else some (column, direction)
    | _ => none

/-- The column and direction of a request, trimmed and unchecked. -/
def parse? (raw : String) : Option (String × String) :=
  (splitRequest? (Text.trimChars raw.toList)).map fun (column, direction) =>
    (String.ofList (Text.trimChars column), String.ofList (Text.trimChars direction))

/-! ## The guard -/

/-- Whether a character can begin an identifier. -/
def beginsIdentifier (c : Char) : Bool := c.isAlpha || c == '_'

/-- Whether a text is an ASCII identifier: a letter or underscore, then letters, digits and
underscores. -/
def isIdentifier (text : String) : Bool :=
  match text.toList with
  | [] => false
  | c :: cs => beginsIdentifier c && cs.all Text.isAsciiWord

/-- The column name for a column as it was written, if nothing speaks against it. -/
def guardColumn? (written : String) : Option String :=
  if looksInjected written then none
  else
    let column := snakeCase written
    if looksInjected column || !isIdentifier column then none else some column

/-- The request, if its form, its column and its direction are all accepted. -/
def guard? (raw : String) : Option Order :=
  match parse? raw with
  | none => none
  | some (written, direction) =>
    match guardColumn? written, Direction.ofText? direction with
    | some column, some direction => some ⟨column, direction⟩
    | _, _ => none

end Order

end SqlFilter
