import SqlFilter.Config
import SqlFilter.Definition.File

/-!
# Checking definition files

A definition file is checked by loading it and compiling it for both dialects. A file that cannot
be loaded is one error and is not looked at further. A definition without a table is worth a
warning, and each dialect that it does not compile for is an error.

Below a directory, a file counts as a definition file by the last part of its name. What is found
is shown in the order of the lines, so that it does not depend on the order in which a directory
lists its files.

## Main definitions

* `Finding`, `Config.findings`: what is wrong with the text of a file.
* `Disk.definitionFiles`: the definition files below a path.
* `Disk.check`: all findings below a path, as lines, and the numbers of them.
-/

namespace SqlFilter

/-! ## One file -/

/-- How bad a finding is. -/
inductive Severity where
  | error
  | warning
  deriving DecidableEq, Repr

/-- The mark of a finding, five columns wide. -/
def Severity.mark : Severity → String
  | .error => "ERROR:"
  | .warning => "WARN: "

/-- Something that is wrong with a definition file. -/
inductive Finding where
  | load (cause : LoadError)
  | noTable
  | compile (dialect : Dialect) (cause : CompileError)
  deriving DecidableEq, Repr

namespace Finding

/-- How bad a finding is. -/
def severity : Finding → Severity
  | .noTable => .warning
  | _ => .error

/-- The line for a finding in the file with a name. -/
def line (name : String) (f : Finding) : String :=
  f.severity.mark ++ " " ++ name ++
    match f with
    | .load cause => " - " ++ Text.joinWith ": " cause.messages
    | .noTable => " - No table set, fields cannot be qualified"
    | .compile dialect cause => " [" ++ dialect.name ++ "] - " ++ cause.message

end Finding

/-- The finding that a definition does not compile for a dialect. -/
def Config.compileFinding? (c : Config) (d : Definition) (dialect : Dialect) : Option Finding :=
  match (c.compiler dialect).compile d.toFilter with
  | .ok _ => none
  | .error e => some (.compile dialect e)

/-- What is wrong with the definition in a text that is read from a path. -/
def Config.findings (c : Config) (path text : String) : List Finding :=
  match Definition.load path text with
  | .error e => [.load e]
  | .ok d =>
    (if d.table = "" then [.noTable] else []) ++
      [Dialect.mysql, Dialect.postgres].filterMap (c.compileFinding? d)

/-! ## All files below a path -/

/-- Whether a file is a definition file, going by its name. -/
def isDefinitionName (name : String) : Bool :=
  match Path.extension? name with
  | some ext => ext = "yaml" || ext = "yml" || ext = "json"
  | none => false

/-- A definition file: its path, its name below the place that was looked at, and its text. -/
structure DefinitionFile where
  path : String
  name : String
  text : String
  deriving DecidableEq, Repr

/-- The definition files below a path. -/
def Disk.definitionFiles (d : Disk) (path : String) : List DefinitionFile :=
  (d.filesUnder path).filterMap fun (names, text) =>
    match names.getLast? <|> (Path.components path).getLast? with
    | some last =>
      if isDefinitionName last then
        some ⟨names.foldl Path.join path, Text.joinWith "/" names, text⟩
      else none
    | none => none

/-- What a check finds: a line for each finding, and how many files, errors and warnings there
are. -/
structure CheckResult where
  lines : List String
  files : Nat
  errors : Nat
  warnings : Nat
  deriving DecidableEq, Repr

/-- Checks the definition files below a path. -/
def Disk.check (d : Disk) (c : Config) (path : String) : CheckResult :=
  let files := d.definitionFiles path
  let found := files.flatMap fun f => (c.findings f.path f.text).map (f.name, ·)
  let lines := found.map fun (name, finding) => finding.line name
  { lines := lines.mergeSort fun a b => decide (a ≤ b)
    files := files.length
    errors := found.countP fun (_, finding) => finding.severity = .error
    warnings := found.countP fun (_, finding) => finding.severity = .warning }

/-- The line that sums a check up. -/
def CheckResult.summary (r : CheckResult) : String :=
  if r.errors = 0 ∧ r.warnings = 0 then
    "✓ No issues found in " ++ toString r.files ++ " files."
  else
    "Found " ++ toString r.errors ++ " error(s), " ++ toString r.warnings ++ " warning(s) in " ++
      toString r.files ++ " files."

end SqlFilter
