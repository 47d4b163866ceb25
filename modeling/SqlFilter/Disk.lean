import SqlFilter.Text.Space

/-!
# Disks

The part of a file system that commands work on: a tree of directories and text files, and a
directory that relative paths start from. There are no links and no permissions, so an operation is
refused only for one of the reasons in `Refusal`.

Paths are text, with `/` between their steps. The steps are taken one after the other, as a file
system takes them: `missing/../x` does not lead anywhere, and neither does `x/` if `x` is a file.

## Main definitions

* `Entry`, `Disk`, `Refusal`.
* `Disk.locate`: where a path leads. `Disk.read`, `Disk.exists?`: what is there.
* `Disk.makeDirectories`, `Disk.write`: changes.
* `Disk.filesUnder`: all files below a path.
-/

namespace SqlFilter

/-! ## Trees of files -/

/-- A file with its text, or a directory with its entries by name. -/
inductive Entry where
  | file (text : String)
  | directory (entries : List (String × Entry))

namespace Entry

/-- The directory with nothing in it. -/
def empty : Entry := .directory []

/-- The entry with a name in a list of entries. -/
def find? (name : String) : List (String × Entry) → Option Entry
  | [] => none
  | (n, e) :: rest => if n = name then some e else find? name rest

/-- Puts an entry in the place of the one with its name, or at the end if there is none. -/
def replace (name : String) (new : Entry) : List (String × Entry) → List (String × Entry)
  | [] => [(name, new)]
  | (n, e) :: rest => if n = name then (n, new) :: rest else (n, e) :: replace name new rest

/-- The entry that names lead to, one below the other. -/
def at? : List String → Entry → Option Entry
  | [], e => some e
  | name :: names, .directory entries => (find? name entries).bind (at? names)
  | _ :: _, .file _ => none

/-- Puts an entry at the place that names lead to, with directories on the way there. -/
def put (new : Entry) : List String → Entry → Entry
  | [], _ => new
  | name :: names, .directory entries =>
    .directory (replace name (put new names ((find? name entries).getD .empty)) entries)
  | _ :: _, .file text => .file text

mutual
/-- All files in an entry, with the names that lead to them. -/
def files : Entry → List (List String × String)
  | .file text => [([], text)]
  | .directory entries => filesOfAll entries

/-- All files in a list of entries. -/
def filesOfAll : List (String × Entry) → List (List String × String)
  | [] => []
  | entry :: rest => filesOf entry ++ filesOfAll rest

/-- All files in an entry with a name. -/
def filesOf : String × Entry → List (List String × String)
  | (name, entry) => (files entry).map fun (names, text) => (name :: names, text)
end

end Entry

/-! ## Paths -/

/-- Why a disk refuses to do something. -/
inductive Refusal where
  | notFound
  | notDirectory
  | isDirectory
  | alreadyThere
  deriving DecidableEq, Repr

/-- The message for a reader, with the number that systems know the reason by. -/
def Refusal.message : Refusal → String
  | .notFound => "No such file or directory (os error 2)"
  | .notDirectory => "Not a directory (os error 20)"
  | .isDirectory => "Is a directory (os error 21)"
  | .alreadyThere => "File exists (os error 17)"

namespace Path

/-- The steps of a path. -/
def steps (path : String) : List String :=
  ((Text.splitChars '/' path.toList).map String.ofList).filter (· ≠ "")

/-- Whether a path starts at the root. -/
def isAbsolute (path : String) : Bool := path.toList.head? = some '/'

/-- Whether a path can lead only to a directory, because of how it ends. -/
def endsInSlash (path : String) : Bool := path.toList.getLast? = some '/'

/-- The steps of a path without those that stay in place, except a first one. -/
def components (path : String) : List String :=
  match steps path with
  | [] => []
  | first :: rest =>
    if first = "." ∧ isAbsolute path then rest.filter (· ≠ ".")
    else first :: rest.filter (· ≠ ".")

/-- A path with a step after it. -/
def join (path step : String) : String :=
  if path = "" ∨ endsInSlash path then path ++ step else path ++ "/" ++ step

/-- The last part of a file's name after a dot, if there is something before the dot. -/
def extension? (name : String) : Option String :=
  let cs := name.toList.reverse
  let after := cs.takeWhile (· ≠ '.')
  match cs.dropWhile (· ≠ '.') with
  | _ :: _ :: _ => some (String.ofList after.reverse)
  | _ => none

end Path

/-! ## Disks -/

/-- A tree of files, and the directory that relative paths start from. -/
structure Disk where
  root : Entry
  here : List String

namespace Disk

/-- Takes steps through a tree, from a place in it. -/
def follow (root : Entry) (place : List String) : List String → Except Refusal (List String)
  | [] => .ok place
  | step :: rest =>
    match root.at? place with
    | some (.directory entries) =>
      if step = "." then follow root place rest
      else if step = ".." then follow root place.dropLast rest
      else if (Entry.find? step entries).isSome then follow root (place ++ [step]) rest
      else .error .notFound
    | some (.file _) => .error .notDirectory
    | none => .error .notFound

/-- Where the steps of a path begin. -/
def origin (d : Disk) (path : String) : List String :=
  if Path.isAbsolute path then [] else d.here

/-- The place that a path leads to. -/
def locate (d : Disk) (path : String) : Except Refusal (List String) :=
  if path = "" then .error .notFound
  else
    follow d.root (d.origin path)
      (Path.steps path ++ (if Path.endsInSlash path then ["."] else []))

/-- What a path leads to. -/
def entry (d : Disk) (path : String) : Except Refusal Entry :=
  match d.locate path with
  | .error e => .error e
  | .ok place =>
    match d.root.at? place with
    | some e => .ok e
    | none => .error .notFound

/-- The text of the file that a path leads to. -/
def read (d : Disk) (path : String) : Except Refusal String :=
  match d.entry path with
  | .error e => .error e
  | .ok (.file text) => .ok text
  | .ok (.directory _) => .error .isDirectory

/-- Whether a path leads anywhere. -/
def exists? (d : Disk) (path : String) : Bool :=
  match d.entry path with
  | .ok _ => true
  | .error _ => false

/-- The place for something new at the end of steps, which must lead to a directory before the
last one. -/
def placeForNew (d : Disk) (start steps : List String) : Except Refusal (List String) :=
  match steps.getLast? with
  | none => .error .alreadyThere
  | some name =>
    match follow d.root start (steps.dropLast ++ ["."]) with
    | .error e => .error e
    | .ok place =>
      if name = "." ∨ name = ".." then .error .alreadyThere
      else if (d.root.at? (place ++ [name])).isSome then .error .alreadyThere
      else .ok (place ++ [name])

/-- A disk with something put at a place. -/
def putAt (d : Disk) (place : List String) (new : Entry) : Disk :=
  { d with root := Entry.put new place d.root }

/-- Whether steps lead to a directory. -/
def leadsToDirectory (d : Disk) (start steps : List String) : Bool :=
  match follow d.root start (steps ++ ["."]) with
  | .ok _ => true
  | .error _ => false

/-- Makes the directory at the end of steps, given last one first, and those on the way to it. -/
def makeDirectoriesFrom (d : Disk) (start : List String) : List String → Except Refusal Disk
  | [] => .ok d
  | name :: up =>
    let steps := up.reverse ++ [name]
    match d.placeForNew start steps with
    | .ok place => .ok (d.putAt place .empty)
    | .error .notFound =>
      match d.makeDirectoriesFrom start up with
      | .error e => .error e
      | .ok d =>
        match d.placeForNew start steps with
        | .ok place => .ok (d.putAt place .empty)
        | .error e => if d.leadsToDirectory start steps then .ok d else .error e
    | .error e => if d.leadsToDirectory start steps then .ok d else .error e

/-- Makes the directory that a path's last step would be put into. -/
def makeDirectories (d : Disk) (path : String) : Except Refusal Disk :=
  d.makeDirectoriesFrom (d.origin path) (Path.components path).reverse.tail

/-- Writes a file, which is made if it is not there. -/
def write (d : Disk) (path text : String) : Except Refusal Disk :=
  match d.locate path with
  | .ok place =>
    match d.root.at? place with
    | some (.directory _) => .error .isDirectory
    | _ => .ok (d.putAt place (.file text))
  | .error _ =>
    match d.placeForNew (d.origin path) (Path.steps path) with
    | .error .alreadyThere => .error .isDirectory
    | .error e => .error e
    | .ok place =>
      if Path.endsInSlash path then .error .isDirectory else .ok (d.putAt place (.file text))

/-- All files below a path, with the names that lead to them from there; a file is below itself. -/
def filesUnder (d : Disk) (path : String) : List (List String × String) :=
  match d.entry path with
  | .ok e => e.files
  | .error _ => []

end Disk

end SqlFilter
