import SqlFilter.Compile.Error
import SqlFilter.Condition
import SqlFilter.Dialect
import SqlFilter.Order

/-!
# What one field contributes

A tagged field with a value becomes one clause: a predicate, a sort term or a join. The predicate
texts are made of the column and of parameter marks only. The values go beside the text as
parameters, and no value ever decides what the text says, except that a list decides how many
marks there are. A sort request is the one value that is written into text, which is why it is
guarded.

## Main definitions

* `Target`: the table and column that a field is about.
* `Emission`: the clause, and the joined table for a join.
* `emit`: the clause of a field, or why its operator cannot take its value.
-/

namespace SqlFilter

/-- The table and column that a field is about. -/
structure Target where
  table : String
  column : String
  deriving DecidableEq, Repr

/-- What one field contributes. -/
inductive Emission where
  | predicate (p : Predicate)
  | order (term : String)
  | join (on : String) (table : String)
  | nothing
  deriving DecidableEq

/-- Marks for a number of parameters. -/
def placeholders (n : Nat) : String := Text.joinWith ", " (List.replicate n "?")

/-- The column of a target. -/
def Dialect.column (d : Dialect) (target : Target) : String :=
  d.qualify target.table target.column

/-- The join of a table to the one that a field is about. -/
def Dialect.joinClause (d : Dialect) (join : JoinTarget) (target : Target) : String :=
  "LEFT JOIN " ++ d.quote join.table ++ " ON " ++ d.qualify join.table join.joined ++ " = " ++
    d.qualify target.table join.owning

/-- The word for a text match. -/
def Dialect.likeWord (d : Dialect) (ignoreCase : Bool) : String :=
  if ignoreCase then d.ilike else "like"

/-- The sort term for a text: a guarded request first, else a direction for the field's own
column, else none. -/
def orderTerm? (d : Dialect) (target : Target) (request : String) : Option String :=
  let request := Text.trim request
  match Order.guard? request with
  | some order => some (d.qualify target.table order.column ++ " " ++ order.direction.name)
  | none =>
    (Direction.ofText? request).map fun direction => d.column target ++ " " ++ direction.name

/-- The predicate of an operator on a value; `none` if the operator cannot take it. -/
def predicate? (d : Dialect) (target : Target) : Operator → FieldValue → Option Predicate
  | .compare relation, .scalar v => some ⟨d.column target ++ " " ++ relation.symbol ++ " ?", [v]⟩
  | .like anchor ignoreCase, .scalar v =>
    some ⟨d.column target ++ " " ++ d.likeWord ignoreCase ++ " ?",
      [.text (anchor.pattern v.display)]⟩
  | .oneOf, .scalar v => some ⟨d.column target ++ " in (?)", [v]⟩
  | .oneOf, .list [] => some ⟨"1 = 0", []⟩
  | .oneOf, .list vs => some ⟨d.column target ++ " in (" ++ placeholders vs.length ++ ")", vs⟩
  | .isNull, _ => some ⟨d.column target ++ " is null", []⟩
  | .isNotNull, _ => some ⟨d.column target ++ " is not null", []⟩
  | _, _ => none

/-- What a field contributes under a tag, or why it cannot. -/
def emit (d : Dialect) (tag : Tag) (target : Target) (name : String) (value : FieldValue) :
    Except CompileError Emission :=
  match tag.operator with
  | .order =>
    match value with
    | .scalar (.text request) =>
      .ok (match orderTerm? d target request with
        | some term => .order term
        | none => .nothing)
    | _ => .ok .nothing
  | .join =>
    match tag.join with
    | none => .error (.tag name .missingJoinTarget)
    | some join =>
      match value with
      | .nested _ => .ok (.join (d.joinClause join target) join.table)
      | _ => .error (.notAFilter target.table name)
  | op =>
    match predicate? d target op value with
    | some p => .ok (.predicate p)
    | none => .error (.unsupportedValue name op value.kind)

end SqlFilter
