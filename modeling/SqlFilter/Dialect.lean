import SqlFilter.Text.Space

/-!
# SQL dialects

The two dialects differ in how they quote an identifier, in how they mark a parameter, and in
whether they have a match without regard to case.

## Main definitions

* `Dialect.quote`, `Dialect.qualify`, `Dialect.qualifyAll`: identifiers.
* `Dialect.placeholder`: the mark of the parameter with a number, counted from 1.
* `Dialect.ofName?`: reads a name strictly; `Dialect.ofDriver` falls back to MySQL.
-/

namespace SqlFilter

/-- A flavour of SQL. -/
inductive Dialect where
  /-- Identifiers between backticks, parameters marked `?`, no match without regard to case. -/
  | mysql
  /-- Identifiers as they are, parameters marked `$n`, a match without regard to case. -/
  | postgres
  deriving DecidableEq, Repr

namespace Dialect

/-- The name of a dialect. -/
def name : Dialect → String
  | .mysql => "mysql"
  | .postgres => "pgsql"

/-- An identifier as the dialect writes it. -/
def quote : Dialect → String → String
  | .mysql, ident => "\x60" ++ ident ++ "\x60"
  | .postgres, ident => ident

/-- A column of a table. -/
def qualify (d : Dialect) (table column : String) : String :=
  d.quote table ++ "." ++ d.quote column

/-- Every column of a table. -/
def qualifyAll (d : Dialect) (table : String) : String := d.quote table ++ ".*"

/-- The word for a match without regard to case. MySQL has no such word and needs none, as its
usual collations compare so. -/
def ilike : Dialect → String
  | .mysql => "like"
  | .postgres => "ilike"

/-- The mark of the parameter with a number, counted from 1. -/
def placeholder : Dialect → Nat → String
  | .mysql, _ => "?"
  | .postgres, index => "$" ++ toString index

/-- The clause that picks a window of the rows. -/
def limitOffset (limit offset : UInt64) : String :=
  "LIMIT " ++ toString limit.toNat ++ " OFFSET " ++ toString offset.toNat

/-- The dialect with a name, in any ASCII case and with blanks around it. -/
def ofName? (text : String) : Option Dialect :=
  let word := Text.asciiLower (Text.trim text)
  if word = "mysql" then some .mysql
  else if word = "pgsql" ∨ word = "postgres" ∨ word = "postgresql" then some .postgres
  else none

@[simp] theorem ofName?_name (d : Dialect) : ofName? d.name = some d := by
  cases d <;> decide

/-- The dialect of a driver name, MySQL for one that is not known. -/
def ofDriver (driver : String) : Dialect := (ofName? driver).getD .mysql

end Dialect

/-- A name that is no dialect, as it was given. -/
structure DialectError where
  name : String
  deriving DecidableEq, Repr

/-- The message for a reader. -/
def DialectError.message (e : DialectError) : String :=
  "unknown SQL dialect '" ++ e.name ++ "', expected 'mysql' or 'pgsql'"

/-- The dialect with a name, or the name that is none. -/
def Dialect.parse (text : String) : Except DialectError Dialect :=
  match Dialect.ofName? text with
  | some d => .ok d
  | none => .error ⟨text⟩

end SqlFilter
