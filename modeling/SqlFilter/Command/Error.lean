import SqlFilter.Config.File
import SqlFilter.Definition.File

/-!
# Why a command fails

The ways in which a command can fail, each with the messages of what caused it, and the report of
a failure that a reader sees. In a report the causes follow under a heading, indented, and with
numbers if there are several. A message of several lines is indented as a whole.

## Main definitions

* `CommandError`, with `CommandError.messages`.
* `report`: the lines for a list of messages, the outermost first.
-/

namespace SqlFilter

/-- Why a command fails. -/
inductive CommandError where
  | config (cause : ConfigError)
  | load (cause : LoadError)
  | compile (file : String) (cause : CompileError)
  /-- A definition without a table, for which there is no statement. -/
  | noTable
  | database (cause : DatabaseError)
  | noDatabaseFile (name : String)
  /-- There is nothing here that could open a database. -/
  | noEngine (path : String)
  | sampleDirectory (cause : Refusal)
  | sampleUnwritable (path : String) (cause : Refusal)
  deriving DecidableEq, Repr

/-- The messages of the error and of what caused it, outermost first. -/
def CommandError.messages : CommandError → List String
  | .config cause => cause.messages
  | .load cause => cause.messages
  | .compile file cause => ("Failed to compile " ++ file) :: cause.messages
  | .noTable => ["Filter has no table; set 'table:' at the top level"]
  | .database cause => [cause.message]
  | .noDatabaseFile name => ["Database '" ++ name ++ "' has no path configured"]
  | .noEngine path => ["Failed to open database: " ++ path, "no database engine"]
  | .sampleDirectory cause => [cause.message]
  | .sampleUnwritable path cause => ["Failed to write filter file: " ++ path, cause.message]

/-! ## Reports -/

/-- The lines of a text. -/
def linesOf (text : String) : List String :=
  (Text.splitChars '\n' text.toList).map String.ofList

/-- The lines of a text with one margin before the first and another before the others. -/
def indented (first others : String) (text : String) : List String :=
  match linesOf text with
  | [] => []
  | line :: lines => (first ++ line) :: lines.map (others ++ ·)

/-- The margin with the number of a cause, which stands in five columns. -/
def numberMargin (index : Nat) : String :=
  let digits := toString index
  String.ofList (List.replicate (5 - digits.length) ' ') ++ digits ++ ": "

/-- The lines for causes that are numbered from `index` on. -/
def numberedCauses (index : Nat) : List String → List String
  | [] => []
  | cause :: causes =>
    indented (numberMargin index) "       " cause ++ numberedCauses (index + 1) causes

/-- The lines that report a failure. -/
def report : List String → List String
  | [] => []
  | [message] => ["Error: " ++ message]
  | [message, cause] => ["Error: " ++ message, "", "Caused by:"] ++ indented "    " "    " cause
  | message :: causes => ["Error: " ++ message, "", "Caused by:"] ++ numberedCauses 0 causes

end SqlFilter
