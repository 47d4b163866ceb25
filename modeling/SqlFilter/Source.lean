import SqlFilter.Filter

/-!
# Where field values come from

A field of a filter is filled from data of one of a few sorts. The sort decides when the data
counts as zero, that is, as "not asked for", and which value it binds:

* numbers are zero when they equal zero, truth values when false, texts and lists when empty;
* dates, timestamps and values that are already bound are never zero;
* optional data is zero exactly when absent, whatever it holds when present;
* a nested filter is zero when all of its fields are.

## Main definitions

* `Source`, with `Source.isZero` and `Source.value`.
* `Field.ofSource`: a field whose zero flag follows these rules.
-/

namespace SqlFilter

open Number (Double)

/-- Data that a field is filled from. -/
inductive Source where
  /-- A whole number of any width. -/
  | integer (n : Int)
  | float (x : Double)
  | bool (b : Bool)
  | text (s : String)
  | date (d : Date)
  | timestamp (t : Timestamp)
  /-- A value in the form that is bound. -/
  | bound (v : SqlValue)
  | list (vs : List SqlValue)
  /-- Optional data that is missing. -/
  | absent
  /-- Optional data that is there. -/
  | present (source : Source)
  | nested (f : Filter)

namespace Source

/-- The value of a whole number: a 64-bit integer, or its decimal text if it is wider. -/
def integerValue (n : Int) : SqlValue :=
  if Int64.minValue.toInt ≤ n ∧ n ≤ Int64.maxValue.toInt then .int (Int64.ofInt n)
  else .text (toString n)

/-- Whether the data counts as not asked for. -/
def isZero : Source → Bool
  | .integer n => n == 0
  | .float x => x.isZero
  | .bool b => !b
  | .text s => s.isEmpty
  | .date _ | .timestamp _ | .bound _ => false
  | .list vs => vs.isEmpty
  | .absent => true
  | .present _ => false
  | .nested f => f.isEmpty

/-- The value that a field takes from the data. -/
def value : Source → FieldValue
  | .integer n => .scalar (integerValue n)
  | .float x => .scalar (.float x)
  | .bool b => .scalar (.bool b)
  | .text s => .scalar (.text s)
  | .date d => .scalar (.date d)
  | .timestamp t => .scalar (.timestamp t)
  | .bound v => .scalar v
  | .list vs => .list vs
  | .absent => .null
  | .present source => source.value
  | .nested f => .nested f

end Source

/-- The field that data fills. -/
def Field.ofSource (name : String) (tag : Option String) (source : Source) : Field :=
  ⟨name, tag, source.isZero, source.value⟩

end SqlFilter
