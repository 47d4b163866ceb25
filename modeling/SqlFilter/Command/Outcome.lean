import SqlFilter.Command.Check
import SqlFilter.Command.Error
import SqlFilter.Command.Line
import SqlFilter.Select

/-!
# What commands do

A command is carried out on a disk. It prints lines, may change the disk, and comes to an end: it
is done, it rejects what it was asked about, or it fails. The lines and files that it wrote before
it failed stay.

All commands but `init` load the configuration before anything else, even those that do not look
at it. The usual configuration file may be missing; one that was named may not.

## Main definitions

* `Surroundings`: the disk, and where the usual configuration file is.
* `Outcome`, `Ending`: what a command does, and how it ends.
* `Config.select`: the rows that a definition file asks for.
* `Invocation.outcome`: carries a command out.
-/

namespace SqlFilter

/-! ## Surroundings -/

/-- What a command finds when it starts. -/
structure Surroundings where
  disk : Disk
  /-- The directory of the user, if it is known. -/
  home : Option String
  /-- The directory for the configurations of the user, if one is set. A path that does not start
  at the root counts as none. -/
  configHome : Option String

namespace Surroundings

/-- The path of the configuration file in a directory for configurations. -/
def configIn (directory : String) : String := ["qfilter", "config.toml"].foldl Path.join directory

/-- The usual path of the configuration file: the one in the user's directory if there is a file,
and else the one in the directory for configurations. -/
def usualConfig (s : Surroundings) : String :=
  let inHome := s.home.map fun home => configIn (Path.join home ".config")
  let otherwise := configIn <|
    match s.configHome.filter Path.isAbsolute, s.home with
    | some directory, _ => directory
    | none, some home => Path.join home ".config"
    | none, none => "."
  match inHome with
  | some path => if s.disk.exists? path then path else otherwise
  | none => otherwise

/-- The configuration in the file that was named, or in the usual one if that is there. -/
def loadConfig (s : Surroundings) (named : Option String) : Except ConfigError Config :=
  match named with
  | some path => s.disk.loadConfig path
  | none => if s.disk.exists? s.usualConfig then s.disk.loadConfig s.usualConfig else .ok .empty

end Surroundings

/-! ## Outcomes -/

/-- How a command ends. -/
inductive Ending where
  | done
  /-- What was asked about is not good. -/
  | rejected
  | failed (cause : CommandError)
  deriving DecidableEq, Repr

/-- The exit status: 0 if the command is done, else 1. -/
def Ending.status : Ending → UInt8
  | .done => 0
  | .rejected => 1
  | .failed _ => 1

/-- The lines that report a failure. -/
def Ending.report : Ending → List String
  | .failed cause => SqlFilter.report cause.messages
  | _ => []

/-- What a command does: the lines it prints, how it ends, and the disk after it. -/
structure Outcome where
  lines : List String
  ending : Ending
  disk : Disk

/-! ## The commands -/

/-- Creates the configuration, and an example of a definition file at a path. What is there
already stays. -/
def Surroundings.init (s : Surroundings) (named sample : Option String) : Outcome :=
  let path := named.getD s.usualConfig
  match s.disk.createConfig path with
  | .error e => ⟨[], .failed (.config e), s.disk⟩
  | .ok disk =>
    let created := "✓ Config: " ++ path
    match sample with
    | none => ⟨[created], .done, disk⟩
    | some file =>
      if disk.exists? file then
        ⟨[created, "Skipped " ++ file ++ " (already exists)"], .done, disk⟩
      else
        match disk.makeDirectories file with
        | .error e => ⟨[created], .failed (.sampleDirectory e), disk⟩
        | .ok disk =>
          match disk.write file exampleDefinition with
          | .error e => ⟨[created], .failed (.sampleUnwritable file e), disk⟩
          | .ok disk => ⟨[created, "✓ Created example filter: " ++ file], .done, disk⟩

/-- The rows that a definition asks for, compiled for a dialect. -/
def Config.selectOf (c : Config) (dialect : Dialect) (file : String) (paging : Option Paging)
    (d : Definition) : Except CommandError Select :=
  match (c.compiler dialect).compile d.toFilter with
  | .error e => .error (.compile file e)
  | .ok condition =>
    if d.table = "" then .error .noTable
    else
      let all := Select.ofTable d.table condition
      .ok <| match paging with
        | none => all
        | some p => all.paginate p.size p.index

/-- The rows that a definition file asks for, compiled for a dialect. -/
def Config.select (c : Config) (disk : Disk) (dialect : Dialect) (file : String)
    (paging : Option Paging) : Except CommandError Select :=
  match disk.loadDefinition file with
  | .error e => .error (.load e)
  | .ok d => c.selectOf dialect file paging d

/-- Lines for parameters that are numbered from `index` on. -/
def parameterLines (index : Nat) : List SqlValue → List String
  | [] => []
  | v :: vs =>
    ("--   $" ++ toString index ++ " = " ++ v.display) :: parameterLines (index + 1) vs

/-- Lines for a statement, under a heading. -/
def Statement.lines (heading : String) (s : Statement) : List String :=
  ["-- " ++ heading, s.sql ++ ";"] ++ parameterLines 1 s.params

/-- Both statements for the rows to read, as JSON. -/
def Select.json (s : Select) (d : Dialect) : Json :=
  .object [("count", (s.count d).json), ("dialect", .string d.name), ("query", (s.query d).json)]

/-- The lines that show both statements. -/
def Select.lines (s : Select) (d : Dialect) (json : Bool) : List String :=
  if json then [(s.json d).pretty]
  else (s.query d).lines "query" ++ (s.count d).lines "count"

/-- What reading rows from a database comes to: a failure, since nothing here opens databases. -/
def Config.runError (c : Config) (disk : Disk) (file : String) (database : Option String)
    (paging : Paging) : CommandError :=
  match c.database database with
  | .error e => .database e
  | .ok (name, db) =>
    match db.path with
    | none => .noDatabaseFile name
    | some path =>
      match c.select disk (.ofDriver db.driver) file (some paging) with
      | .error e => e
      | .ok _ => .noEngine path

/-- The line that says what becomes of a sort request, and how that ends. -/
def orderVerdict (request : String) : String × Ending :=
  match Order.guard? request, Order.parse? request with
  | some o, _ => ("✓ " ++ o.column ++ " " ++ o.direction.name, .done)
  | none, none => ("Rejected: expected order[column]=asc|desc", .rejected)
  | none, some (column, direction) =>
    if Order.looksInjected column then
      ("Rejected: column '" ++ column ++ "' looks like SQL injection", .rejected)
    else
      ("Rejected: '" ++ column ++ "=" ++ direction ++ "' is not a valid column/direction pair",
        .rejected)

/-! ## Carrying out commands -/

/-- What a command does with its configuration, if that can be loaded. -/
def Surroundings.withConfig (s : Surroundings) (named : Option String)
    (go : Config → List String × Ending) : Outcome :=
  match s.loadConfig named with
  | .error e => ⟨[], .failed (.config e), s.disk⟩
  | .ok c =>
    let (lines, ending) := go c
    ⟨lines, ending, s.disk⟩

/-- Shows the statements for a definition file. -/
def Config.compileFile (c : Config) (disk : Disk) (dialect : Dialect) (file : String)
    (paging : Option Paging) (json : Bool) : List String × Ending :=
  match c.select disk dialect file paging with
  | .error e => ([], .failed e)
  | .ok select => (select.lines dialect json, .done)

/-- Shows what is wrong with the definition files below a path. -/
def Config.checkFiles (c : Config) (disk : Disk) (directory : String) : List String × Ending :=
  let result := disk.check c directory
  (["Checking filters in: " ++ directory] ++ result.lines ++ ["", result.summary],
    if result.errors = 0 then .done else .rejected)

/-- Carries out a command. -/
def Invocation.outcome (s : Surroundings) (i : Invocation) : Outcome :=
  match i.command with
  | .init sample => s.init i.config sample
  | .compile file dialect database paging json =>
    s.withConfig i.config fun c =>
      c.compileFile s.disk (dialect.getD (c.dialect database)) file paging json
  | .run file database paging =>
    s.withConfig i.config fun c => ([], .failed (c.runError s.disk file database paging))
  | .check directory => s.withConfig i.config fun c => c.checkFiles s.disk directory
  | .order request =>
    s.withConfig i.config fun _ =>
      let (line, ending) := orderVerdict request
      ([line], ending)

end SqlFilter
