import SqlFilter.Config
import SqlFilter.Disk
import SqlFilter.Toml.Document

/-!
# Configuration files

A configuration is written as a TOML document with the keys `default_database`, `max_depth` and
`databases`. The last is a table of databases, each a table with the keys `driver` and `path`. All
of them may be left out, and keys that are not known are passed over.

A database may also be written as an array of its driver and its path, of which the first, both
or neither may be there. A date or a time in its place says nothing about it.

## Main definitions

* `Database.ofValue?`, `Config.ofTable?`, `Config.ofText?`.
* `Disk.loadConfig`: the configuration in a file.
* `Disk.createConfig`: writes a file to start from, unless something is there.
-/

namespace SqlFilter

open Toml (Value Table)

/-! ## Reading -/

/-- A string, if the key is bound to one; it may be left out. -/
def stringOrAbsent? : Option Value → Option (Option String)
  | none => some none
  | some (.string s) => some (some s)
  | some _ => none

/-- A number that is not negative, if the key is bound to one; it may be left out. -/
def countOrAbsent? : Option Value → Option (Option Nat)
  | none => some none
  | some (.integer n) => if 0 ≤ n.toInt then some (some n.toInt.toNat) else none
  | some _ => none

/-- The database that its driver and its path make up. -/
def Database.ofParts? (driver path : Option Value) : Option Database :=
  match stringOrAbsent? driver, stringOrAbsent? path with
  | some driver, some path => some ⟨driver.getD Database.default.driver, path⟩
  | _, _ => none

/-- The database that a value spells. -/
def Database.ofValue? : Value → Option Database
  | .table _ entries =>
    Database.ofParts? (Table.find? "driver" entries) (Table.find? "path" entries)
  | .array items => Database.ofParts? items[0]? items[1]?
  | .dateTime => some .default
  | _ => none

/-- The databases that the entries of a table spell. -/
def databasesOf? : Table → Option (List (String × Database))
  | [] => some []
  | (name, value) :: rest =>
    match Database.ofValue? value, databasesOf? rest with
    | some db, some dbs => some ((name, db) :: dbs)
    | _, _ => none

/-- Databases in the order of their names. -/
def sortedByName (dbs : List (String × Database)) : List (String × Database) :=
  dbs.mergeSort fun a b => decide (a.1 ≤ b.1)

/-- The databases of a configuration, which may be left out. -/
def databasesOrNone? : Option Value → Option (List (String × Database))
  | none => some []
  | some (.table _ entries) => (databasesOf? entries).map sortedByName
  | some _ => none

namespace Config

/-- The configuration that a table spells. -/
def ofTable? (t : Table) : Option Config :=
  match stringOrAbsent? (Table.find? "default_database" t),
    countOrAbsent? (Table.find? "max_depth" t), databasesOrNone? (Table.find? "databases" t) with
  | some defaultDatabase, some maxDepth, some databases =>
    some ⟨defaultDatabase, maxDepth, databases⟩
  | _, _, _ => none

/-- The configuration in a text. -/
def ofText? (text : String) : Option Config := (Table.ofText? text).bind ofTable?

/-- What a new configuration file says: nothing, but how to say it. -/
def template : String :=
  "# qfilter configuration

# Database used when --database is not given
# default_database = \"main\"

# Maximum filter nesting depth (untagged scopes plus joins)
# max_depth = 32

# [databases.main]
# driver = \"mysql\"          # mysql | pgsql
# path = \"/path/to/main.db\" # SQLite file used by \x60qf run\x60
"

end Config

/-! ## Files -/

/-- Why a configuration could not be loaded or created. -/
inductive ConfigError where
  | unreadable (path : String) (cause : Refusal)
  | unparsable (path : String)
  | unwritable (path : String) (cause : Refusal)
  /-- The directory for it could not be made. -/
  | noDirectory (cause : Refusal)
  deriving DecidableEq, Repr

/-- The messages of the error and of what caused it, outermost first. -/
def ConfigError.messages : ConfigError → List String
  | .unreadable path cause => ["Failed to read config: " ++ path, cause.message]
  | .unparsable path => ["Failed to parse config: " ++ path]
  | .unwritable path cause => ["Failed to write config: " ++ path, cause.message]
  | .noDirectory cause => [cause.message]

namespace Disk

/-- The configuration in a file. -/
def loadConfig (d : Disk) (path : String) : Except ConfigError Config :=
  match d.read path with
  | .error e => .error (.unreadable path e)
  | .ok text =>
    match Config.ofText? text with
    | some c => .ok c
    | none => .error (.unparsable path)

/-- Writes the template of a configuration file, and the directory for it. What is there stays. -/
def createConfig (d : Disk) (path : String) : Except ConfigError Disk :=
  if d.exists? path then .ok d
  else
    match d.makeDirectories path with
    | .error e => .error (.noDirectory e)
    | .ok d =>
      match d.write path Config.template with
      | .error e => .error (.unwritable path e)
      | .ok d => .ok d

end Disk

end SqlFilter
