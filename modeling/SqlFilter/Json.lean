import SqlFilter.Text.Quoted
import SqlFilter.Text.Space

/-!
# JSON documents

The JSON that this package writes, as a tree, and its two texts: `Json.compact` on one line and
`Json.pretty` with two blanks of indentation for each level. Members keep the order they are
given in. A number is held as its text, so that how it is written is decided where the number
comes from.
-/

namespace SqlFilter

/-- A JSON document. -/
inductive Json where
  | null
  | bool (b : Bool)
  | number (text : String)
  | string (s : String)
  | array (items : List Json)
  | object (members : List (String × Json))

namespace Json

/-- The text of a truth value. -/
def boolText (b : Bool) : String := if b then "true" else "false"

/-- Line breaks and blanks that open a line at a depth. -/
def newline (depth : Nat) : String := "\n" ++ String.ofList (List.replicate (2 * depth) ' ')

mutual
/-- The document on one line, without blanks. -/
def compact : Json → String
  | .null => "null"
  | .bool b => boolText b
  | .number text => text
  | .string s => Text.jsonQuoted s
  | .array items => "[" ++ Text.joinWith "," (compactItems items) ++ "]"
  | .object members => "\x7b" ++ Text.joinWith "," (compactMembers members) ++ "\x7d"

/-- The items of an array, each on its own. -/
def compactItems : List Json → List String
  | [] => []
  | item :: items => compact item :: compactItems items

/-- The members of an object, each on its own. -/
def compactMembers : List (String × Json) → List String
  | [] => []
  | member :: members => compactMember member :: compactMembers members

/-- A member of an object. -/
def compactMember : String × Json → String
  | (key, value) => Text.jsonQuoted key ++ ":" ++ compact value
end

mutual
/-- The document with one item or member to a line, at a depth. -/
def prettyAt (depth : Nat) : Json → String
  | .null => "null"
  | .bool b => boolText b
  | .number text => text
  | .string s => Text.jsonQuoted s
  | .array [] => "[]"
  | .array (item :: items) =>
    "[" ++ newline (depth + 1) ++
      Text.joinWith ("," ++ newline (depth + 1)) (prettyItems (depth + 1) (item :: items)) ++
      newline depth ++ "]"
  | .object [] => "\x7b\x7d"
  | .object (member :: members) =>
    "\x7b" ++ newline (depth + 1) ++
      Text.joinWith ("," ++ newline (depth + 1)) (prettyMembers (depth + 1) (member :: members)) ++
      newline depth ++ "\x7d"

/-- The items of an array, each on its own. -/
def prettyItems (depth : Nat) : List Json → List String
  | [] => []
  | item :: items => prettyAt depth item :: prettyItems depth items

/-- The members of an object, each on its own. -/
def prettyMembers (depth : Nat) : List (String × Json) → List String
  | [] => []
  | member :: members => prettyMember depth member :: prettyMembers depth members

/-- A member of an object. -/
def prettyMember (depth : Nat) : String × Json → String
  | (key, value) => Text.jsonQuoted key ++ ": " ++ prettyAt depth value
end

/-- The document with one item or member to a line. -/
def pretty (j : Json) : String := prettyAt 0 j

end Json

end SqlFilter
