import SqlFilter.Value

/-!
# Filters

A filter is a table with fields. A field has a name, perhaps a tag, a value, and a flag that says
whether the value is zero, that is, whether the caller asked for nothing. The value may be a filter
itself, which filters a joined table or groups fields of the same one.

The zero flag belongs to the field and not to its value: a field that is present but holds an
empty text asks for the empty text.
-/

namespace SqlFilter

mutual
/-- A table with fields. An empty table name stands for the table of the scope around. -/
structure Filter where
  table : String
  fields : List Field

/-- A named value with its tag, if it has one. -/
structure Field where
  name : String
  tag : Option String
  isZero : Bool
  value : FieldValue

/-- What a field holds. -/
inductive FieldValue where
  | null
  | scalar (value : SqlValue)
  | list (values : List SqlValue)
  | nested (filter : Filter)
end

/-- Whether the filter asks for nothing: every field is zero. -/
def Filter.isEmpty (f : Filter) : Bool := f.fields.all Field.isZero

/-- What sort of thing a field holds. -/
inductive ValueKind where
  | null
  | scalar
  | list
  | nested
  deriving DecidableEq, Repr

/-- The words for a kind. -/
def ValueKind.name : ValueKind → String
  | .null => "null"
  | .scalar => "scalar"
  | .list => "list"
  | .nested => "nested filter"

/-- The kind of a field's value. -/
def FieldValue.kind : FieldValue → ValueKind
  | .null => .null
  | .scalar _ => .scalar
  | .list _ => .list
  | .nested _ => .nested

/-- The exact form of a field's value; of a nested filter, only its table. -/
def FieldValue.exact : FieldValue → String
  | .null => "Null"
  | .scalar v => "Scalar(" ++ v.exact ++ ")"
  | .list vs => "List([" ++ Text.joinWith ", " (vs.map SqlValue.exact) ++ "])"
  | .nested f => "Nested(" ++ Text.quoted f.table ++ ")"

end SqlFilter
