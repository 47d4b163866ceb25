import SqlFilter.Command.Outcome

/-!
# The program

Reads the part of the file system that a command looks at into a disk, carries the command out
there, writes the files that changed, and prints. A command line that cannot be read ends with
status 2.
-/

namespace SqlFilter.Program

/-- How the program is used. -/
def usage : String :=
  "Usage: qf [--config FILE] COMMAND

  init [--example FILE]
  compile FILE [--dialect NAME] [--database NAME] [--page N] [--page-size N] [--json]
  run FILE [--database NAME] [--page N] [--page-size N]
  check [DIRECTORY]
  order REQUEST"

/-- How deep directories are looked at. -/
def deepest : Nat := 1024

/-- Adds the files that steps lead to, and the directories on the way. -/
def observeSteps (d : Disk) (seen : String) (place : List String) : List String → IO Disk
  | [] => return d
  | step :: steps => do
    let seen := Path.join seen step
    let place :=
      if step = "." then place else if step = ".." then place.dropLast else place ++ [step]
    let file := (← IO.currentDir) / seen
    if ← file.isDir then
      let d := if (d.root.at? place).isSome then d else d.putAt place .empty
      observeSteps d seen place steps
    else if ← file.pathExists then return d.putAt place (.file (← IO.FS.readFile file))
    else return d

/-- Adds what a path leads to. -/
def observe (d : Disk) (path : String) : IO Disk :=
  observeSteps d (if Path.isAbsolute path then "/" else "") (d.origin path) (Path.steps path)

/-- Adds the definition files below a path, down to a depth. -/
def observeBelow : Nat → Disk → String → IO Disk
  | 0, d, _ => return d
  | depth + 1, d, path => do
    let directory := (← IO.currentDir) / path
    if ← directory.isDir then
      let mut d ← observe d path
      for entry in ← directory.readDir do
        d ← observeBelow depth d (Path.join path entry.fileName)
      return d
    else if (Path.components path).getLast?.any isDefinitionName then observe d path
    else return d

/-- The paths that a command looks at. -/
def pathsOf (s : Surroundings) (i : Invocation) : List String :=
  let config := match i.config with
    | some path => [path]
    | none => [s.usualConfig]
  config ++
    match i.command with
    | .init sample => sample.toList
    | .compile file .. => [file]
    | .run file .. => [file]
    | .check _ => []
    | .order _ => []

/-- What a command finds when it starts. -/
def surroundings (i : Invocation) : IO Surroundings := do
  let here := Path.steps (← IO.currentDir).toString
  let home := (← IO.getEnv "HOME").filter (· ≠ "")
  let configHome ← IO.getEnv "XDG_CONFIG_HOME"
  let bare : Disk := ⟨Entry.put .empty here .empty, here⟩
  let inHome ← match home with
    | some path => observe bare (Surroundings.configIn (Path.join path ".config"))
    | none => pure bare
  let s : Surroundings := ⟨inHome, home, configHome⟩
  let mut disk := s.disk
  for path in pathsOf s i do
    disk ← observe disk path
  match i.command with
  | .check directory => disk ← observeBelow deepest disk directory
  | _ => pure ()
  return { s with disk }

/-- Writes the files that are new or have changed. -/
def writeChanges (before after : Disk) : IO Unit := do
  for (names, text) in after.root.files do
    let old := match before.root.at? names with
      | some (.file old) => some old
      | _ => none
    if old ≠ some text then
      IO.FS.createDirAll ("/" ++ Text.joinWith "/" names.dropLast)
      IO.FS.writeFile ("/" ++ Text.joinWith "/" names) text

end SqlFilter.Program

/-- Carries out the command of the command line. -/
def main (arguments : List String) : IO UInt32 := do
  match SqlFilter.Invocation.ofArguments? arguments with
  | none =>
    IO.eprintln SqlFilter.Program.usage
    return 2
  | some i =>
    let before ← SqlFilter.Program.surroundings i
    let outcome := i.outcome before
    SqlFilter.Program.writeChanges before.disk outcome.disk
    for line in outcome.lines do
      IO.println line
    for line in outcome.ending.report do
      IO.eprintln line
    return outcome.ending.status.toUInt32
