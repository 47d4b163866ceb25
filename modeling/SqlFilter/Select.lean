import SqlFilter.Condition
import SqlFilter.Dialect

/-!
# Statements

A condition over a table becomes two statements: one that reads rows, and one that counts the rows
that the first would read without its window. Both have the same joins, the same conditions and
the same parameters.

The clauses of the joined scopes come before those of the root. A condition with both kinds of
predicates reads `(a AND b) OR c OR d`. Marks are numbered while the text grows: the marks of a
fragment count on from the parameters of the fragments before it.

## Main definitions

* `Select`, with `Select.withLimit` and `Select.paginate`.
* `Statement`: SQL text and its parameters in the order of the marks.
* `Select.query`, `Select.count`.
-/

namespace SqlFilter

/-! ## What to read -/

/-- The rows of a table that a condition asks for, and the window of them to read. -/
structure Select where
  table : String
  condition : Condition
  limit : Option UInt64
  offset : UInt64

/-- The difference of two words, or zero. -/
def saturatingSub (a b : UInt64) : UInt64 := if a < b then 0 else a - b

/-- The product of two words, or the largest word if it does not fit. -/
def saturatingMul (a b : UInt64) : UInt64 :=
  if a.toNat * b.toNat < UInt64.size then a * b else UInt64.ofNat (UInt64.size - 1)

namespace Select

/-- All rows of a table that a condition asks for. -/
def ofTable (table : String) (condition : Condition) : Select := ⟨table, condition, none, 0⟩

/-- At most a number of rows. -/
def withLimit (s : Select) (limit : UInt64) : Select := { s with limit := some limit }

/-- One page of the rows. Pages count from 1, and page 0 is the first one too. -/
def paginate (s : Select) (size index : UInt64) : Select :=
  { s with limit := some size, offset := saturatingMul (saturatingSub index 1) size }

end Select

/-! ## Statement text -/

/-- SQL text, and its parameters in the order of the marks. -/
structure Statement where
  sql : String
  params : List SqlValue
  deriving DecidableEq

namespace Statement

/-- More text without marks. -/
def append (s : Statement) (text : String) : Statement := { s with sql := s.sql ++ text }

/-- A fragment with each `?` replaced by the dialect's mark, counting on from `index`. -/
def numberMarks (d : Dialect) (index : Nat) : List Char → String
  | [] => ""
  | c :: cs =>
    if c = '?' then d.placeholder (index + 1) ++ numberMarks d (index + 1) cs
    else c.toString ++ numberMarks d index cs

/-- One more predicate. -/
def appendPredicate (d : Dialect) (s : Statement) (p : Predicate) : Statement :=
  ⟨s.sql ++ numberMarks d s.params.length p.fragment.toList, s.params ++ p.params⟩

/-- Predicates with a word between them. -/
def appendJoined (d : Dialect) (word : String) (s : Statement) : List Predicate → Statement
  | [] => s
  | p :: ps => ps.foldl (fun s q => (s.append word).appendPredicate d q) (s.appendPredicate d p)

/-- The conditions: what must hold, in brackets if there are alternatives, and those. -/
def appendFilters (d : Dialect) (s : Statement) (wheres ors : List Predicate) : Statement :=
  match wheres, ors with
  | [], [] => s
  | _, [] => (s.append " WHERE ").appendJoined d " AND " wheres
  | [], _ => (s.append " WHERE ").appendJoined d " OR " ors
  | _, _ =>
    ors.foldl (fun s q => (s.append " OR ").appendPredicate d q)
      (((s.append " WHERE (").appendJoined d " AND " wheres).append ")")

end Statement

namespace Select

/-- A statement head, then the joins and the conditions. -/
def filtered (s : Select) (d : Dialect) (head : String) : Statement :=
  let joined := s.condition.flattenJoins.foldl (fun (st : Statement) j => st.append (" " ++ j.on))
    ⟨head ++ d.quote s.table, []⟩
  joined.appendFilters d (s.condition.scopes.flatMap Condition.wheres)
    (s.condition.scopes.flatMap Condition.ors)

/-- The statement that reads the rows. -/
def query (s : Select) (d : Dialect) : Statement :=
  let filtered := s.filtered d ("SELECT " ++ d.qualifyAll s.table ++ " FROM ")
  let orders := s.condition.scopes.flatMap Condition.orders
  let sorted :=
    if orders.isEmpty then filtered
    else filtered.append (" ORDER BY " ++ Text.joinWith ", " orders)
  match s.limit with
  | none => sorted
  | some limit => sorted.append (" " ++ Dialect.limitOffset limit s.offset)

/-- The statement that counts the rows. -/
def count (s : Select) (d : Dialect) : Statement := s.filtered d "SELECT COUNT(*) FROM "

end Select

/-- A statement as JSON. -/
def Statement.json (s : Statement) : Json :=
  .object [("params", .array (s.params.map SqlValue.json)), ("sql", .string s.sql)]

end SqlFilter
