import SqlFilter.Dialect

/-!
# Commands

What can be asked of the program, after its command line was understood: create the configuration,
compile a definition file to SQL, run one against a database, check a directory of them, or look
at a sort request. Each comes with the configuration file to use, if one was named.

## Main definitions

* `Command`, with `Paging` for the page of the rows to read.
* `Invocation`: a command and the configuration file.
-/

namespace SqlFilter

/-- A page of the rows: how many rows there are on one, and its number, counted from 1. -/
structure Paging where
  size : UInt64
  index : UInt64
  deriving DecidableEq, Repr

/-- How many rows there are on a page unless something else is said. -/
def defaultPageSize : UInt64 := 20

/-- What can be asked of the program. -/
inductive Command where
  /-- Create the configuration, and an example of a definition file at a path. -/
  | init (sample : Option String)
  /-- Show the statements for a definition file. -/
  | compile (file : String) (dialect : Option Dialect) (database : Option String)
      (paging : Option Paging) (json : Bool)
  /-- Read rows with a definition file from a database. -/
  | run (file : String) (database : Option String) (paging : Paging)
  /-- Compile every definition file below a directory for both dialects. -/
  | check (directory : String)
  /-- Show what becomes of a sort request. -/
  | order (request : String)
  deriving DecidableEq, Repr

/-- A command, and the configuration file to use if it is not the usual one. -/
structure Invocation where
  config : Option String
  command : Command
  deriving DecidableEq, Repr

end SqlFilter
