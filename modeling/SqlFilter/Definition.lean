import SqlFilter.Source

/-!
# Filter definitions

A filter as it is written down in a file. Unlike a `Filter`, a definition has fields that may have
a value and a filter at once, or a blank name; `Definition.fault?` finds the first such fault. A
definition without faults stands for the filter `Definition.toFilter`, whose zero flags follow
from the values that are written.

## Main definitions

* `Literal`, `Written`: values in a definition.
* `Definition`, `FieldDefinition`.
* `Definition.fault?`: what is wrong with a definition.
* `Definition.toFilter`, `Definition.json`.
-/

namespace SqlFilter

open Number (Double Layout)

/-! ## Values -/

/-- A single value. -/
inductive Literal where
  | bool (b : Bool)
  | int (n : Int64)
  | float (x : Double)
  | text (s : String)
  deriving DecidableEq

/-- The value that is bound for a literal. -/
def Literal.value : Literal → SqlValue
  | .bool b => .bool b
  | .int n => .int n
  | .float x => .float x
  | .text s => .text s

/-- The data of a literal, which is zero if the literal is false, 0 or empty. -/
def Literal.source : Literal → Source
  | .bool b => .bool b
  | .int n => .integer n.toInt
  | .float x => .float x
  | .text s => .text s

/-- What is written as a field's value. -/
inductive Written where
  | list (items : List Literal)
  | scalar (item : Literal)
  deriving DecidableEq

/-- The data of a written value. -/
def Written.source : Written → Source
  | .list items => .list (items.map Literal.value)
  | .scalar item => item.source

/-- A written value as JSON. -/
def Written.json : Written → Json
  | .list items => .array (items.map fun item => item.value.json)
  | .scalar item => item.value.json

/-! ## Definitions -/

mutual
/-- A filter in a file. An empty table name stands for the table of the scope around. -/
structure Definition where
  table : String
  fields : List FieldDefinition

/-- A field of a definition. -/
structure FieldDefinition where
  name : String
  /-- The tag. -/
  query : Option String
  value : Option Written
  filter : Option Definition
end

/-- The definition with nothing in it. -/
def Definition.empty : Definition := ⟨"", []⟩

/-! ## Faults -/

/-- What can be wrong with a definition. -/
inductive DefinitionError where
  /-- A field has a blank name; fields are counted from 0 within their own list. -/
  | emptyName (index : Nat)
  | valueAndFilter (field : String)
  deriving DecidableEq, Repr

/-- The message for a reader. -/
def DefinitionError.message : DefinitionError → String
  | .emptyName index => "field #" ++ toString index ++ " has an empty name"
  | .valueAndFilter field => "field '" ++ field ++ "' sets both 'value' and 'filter'"

mutual
/-- The first fault of a definition: fields come before the fields of their filters, and those
before the fields after them. -/
def Definition.fault? : Definition → Option DefinitionError
  | ⟨_, fields⟩ => FieldDefinition.firstFault? 0 fields

/-- The first fault of fields that are counted from an index. -/
def FieldDefinition.firstFault? (index : Nat) : List FieldDefinition → Option DefinitionError
  | [] => none
  | field :: rest =>
    match field.fault? index with
    | some e => some e
    | none => FieldDefinition.firstFault? (index + 1) rest

/-- The first fault of the field at an index. -/
def FieldDefinition.fault? (index : Nat) : FieldDefinition → Option DefinitionError
  | ⟨name, _, value, filter⟩ =>
    if Text.isBlankText name then some (.emptyName index)
    else FieldDefinition.filterFault? name value filter

/-- The first fault of the filter in a field. -/
def FieldDefinition.filterFault? (name : String) (value : Option Written) :
    Option Definition → Option DefinitionError
  | none => none
  | some inner => if value.isSome then some (.valueAndFilter name) else inner.fault?
end

/-! ## The filter of a definition -/

mutual
/-- The filter that a definition stands for. -/
def Definition.toFilter : Definition → Filter
  | ⟨table, fields⟩ => ⟨table, FieldDefinition.toFields fields⟩

/-- The fields that are written in a list. -/
def FieldDefinition.toFields : List FieldDefinition → List Field
  | [] => []
  | field :: rest => field.toField :: FieldDefinition.toFields rest

/-- The field that is written, filled from its filter if it has one, and else from its value. -/
def FieldDefinition.toField : FieldDefinition → Field
  | ⟨name, query, value, filter⟩ =>
    .ofSource name query (FieldDefinition.dataOf value filter)

/-- The data that fills a field. -/
def FieldDefinition.dataOf (value : Option Written) : Option Definition → Source
  | some inner => .nested inner.toFilter
  | none => (value.map Written.source).getD .absent
end

/-! ## Definitions as JSON -/

/-- A JSON string, or null. -/
def Json.ofText? (s : Option String) : Json := (s.map Json.string).getD .null

mutual
/-- A definition as JSON, with null for what is not written. -/
def Definition.json : Definition → Json
  | ⟨table, fields⟩ =>
    .object [("table", .string table), ("fields", .array (FieldDefinition.jsonItems fields))]

/-- Fields as JSON. -/
def FieldDefinition.jsonItems : List FieldDefinition → List Json
  | [] => []
  | field :: rest => field.json :: FieldDefinition.jsonItems rest

/-- A field as JSON. -/
def FieldDefinition.json : FieldDefinition → Json
  | ⟨name, query, value, filter⟩ =>
    .object [("name", .string name), ("query", Json.ofText? query),
      ("value", (value.map Written.json).getD .null),
      ("filter", FieldDefinition.filterJson filter)]

/-- The filter of a field as JSON. -/
def FieldDefinition.filterJson : Option Definition → Json
  | none => .null
  | some inner => inner.json
end

end SqlFilter
