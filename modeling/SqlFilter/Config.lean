import SqlFilter.Compile

/-!
# Configuration

Named databases, the one to use when none is named, and a limit on how deep filters may be nested.
Everything is optional. Looking a database up can fail; the dialect to compile for is always
known, since a database that is not there has the default dialect.

## Main definitions

* `Database`, `Config`.
* `Config.database`, `Config.dialect`, `Config.compiler`.
-/

namespace SqlFilter

/-- A database: the name of its driver, and the file to open it from, if it can be opened. -/
structure Database where
  driver : String
  path : Option String
  deriving DecidableEq, Repr

/-- The dialect that is compiled for where nothing else is said. -/
def defaultDialect : Dialect := .mysql

/-- A database of which nothing is said. -/
def Database.default : Database := ⟨defaultDialect.name, none⟩

/-- What can be configured. -/
structure Config where
  /-- The name of the database to use when none is named. -/
  defaultDatabase : Option String
  maxDepth : Option Nat
  /-- The databases by name, in the order of their names. -/
  databases : List (String × Database)
  deriving DecidableEq, Repr

/-- Why there is no database to use. -/
inductive DatabaseError where
  | notNamed
  | unknown (name : String)
  deriving DecidableEq, Repr

/-- The message for a reader. -/
def DatabaseError.message : DatabaseError → String
  | .notNamed => "No database given and no default_database configured"
  | .unknown name => "Unknown database '" ++ name ++ "'"

namespace Config

/-- The configuration that says nothing. -/
def empty : Config := ⟨none, none, []⟩

/-- The database with a name, or the one to use when none is named, with its name. -/
def database (c : Config) (name : Option String) : Except DatabaseError (String × Database) :=
  match name <|> c.defaultDatabase with
  | none => .error .notNamed
  | some name =>
    match c.databases.lookup name with
    | some db => .ok (name, db)
    | none => .error (.unknown name)

/-- The dialect of a database, and the default one if there is no such database. -/
def dialect (c : Config) (name : Option String) : Dialect :=
  match c.database name with
  | .ok (_, db) => .ofDriver db.driver
  | .error _ => defaultDialect

/-- The compiler for a dialect. -/
def compiler (c : Config) (d : Dialect) : Compiler := ⟨d, c.maxDepth.getD defaultMaxDepth⟩

end Config

end SqlFilter
