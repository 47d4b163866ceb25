import SqlFilter.Calendar
import SqlFilter.Json
import SqlFilter.Number.Layout

/-!
# Values that are bound to parameters

A predicate never holds a value in its text. It holds a mark, and the value goes along beside it.
`SqlValue` is such a value, with the texts it can take: shown to a reader or put into a pattern,
written to JSON, spelled out exactly, and handed to a database.
-/

namespace SqlFilter

open Number (Double Layout)

/-- A value that is bound to one parameter. -/
inductive SqlValue where
  | null
  | bool (b : Bool)
  | int (n : Int64)
  | float (x : Double)
  | text (s : String)
  | date (d : Date)
  | timestamp (t : Timestamp)
  deriving DecidableEq

namespace SqlValue

/-- The text shown to a reader, and the one that a pattern is made of. -/
def display : SqlValue → String
  | .null => "NULL"
  | .bool b => Json.boolText b
  | .int n => toString n.toInt
  | .float x => Layout.plain.text x
  | .text s => s
  | .date d => d.text
  | .timestamp t => t.text

/-- The JSON form. JSON has no infinities, so they are null there, and so is "no number". -/
def json : SqlValue → Json
  | .null => .null
  | .bool b => .bool b
  | .int n => .number (toString n.toInt)
  | .float x => if x.isNaN || x.isInfinite then .null else .number (Layout.json.text x)
  | .text s => .string s
  | .date d => .string d.text
  | .timestamp t => .string t.zuluText

/-- The exact form, with the kind of the value. -/
def exact : SqlValue → String
  | .null => "Null"
  | .bool b => "Bool(" ++ Json.boolText b ++ ")"
  | .int n => "Int(" ++ toString n.toInt ++ ")"
  | .float x => "Float(" ++ Layout.exact.text x ++ ")"
  | .text s => "Text(" ++ Text.quoted s ++ ")"
  | .date d => "Date(" ++ d.text ++ ")"
  | .timestamp t => "Timestamp(" ++ t.zuluText ++ ")"

/-- What a database is handed for a parameter. -/
inductive Bound where
  | null
  | integer (n : Int64)
  | real (x : Double)
  | text (s : String)
  deriving DecidableEq

/-- What is bound: truth values as 0 and 1, dates and timestamps as their text. -/
def bound : SqlValue → Bound
  | .null => .null
  | .bool b => .integer (if b then 1 else 0)
  | .int n => .integer n
  | .float x => .real x
  | .text s => .text s
  | .date d => .text d.text
  | .timestamp t => .text t.text

end SqlValue

end SqlFilter
