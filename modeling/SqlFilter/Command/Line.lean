import SqlFilter.Command
import SqlFilter.Command.Argument

/-!
# Command lines

A command line is the name of a command and the arguments of that command. The configuration file
may be given before the name as well; if it is given on both sides, the one after the name counts.
Nothing else stands before the name.

A command line that cannot be read says nothing more than that, so all mistakes are one.

## Main definitions

* `CommandName`, with `CommandName.form` and `CommandName.command?`.
* `Invocation.ofArguments?`: the command line as a whole.
-/

namespace SqlFilter

/-! ## The commands and what they take -/

/-- The name of a command. -/
inductive CommandName where
  | init
  | compile
  | run
  | check
  | order
  deriving DecidableEq, Repr

namespace CommandName

/-- The name as a text. -/
def text : CommandName → String
  | .init => "init"
  | .compile => "compile"
  | .run => "run"
  | .check => "check"
  | .order => "order"

/-- All names. -/
def all : List CommandName := [.init, .compile, .run, .check, .order]

/-- The name that a text spells. -/
def ofText? (word : String) : Option CommandName := all.find? fun n => n.text = word

@[simp] theorem ofText?_text (n : CommandName) : ofText? n.text = some n := by
  cases n <;> decide

/-- What a command can be given besides words. -/
def form : CommandName → Form
  | .init => ⟨[.config, .sample], false⟩
  | .compile => ⟨[.config, .dialect, .database, .page, .pageSize], true⟩
  | .run => ⟨[.config, .database, .page, .pageSize], false⟩
  | .check => ⟨[.config], false⟩
  | .order => ⟨[.config], false⟩

/-- The size of a page that was asked for. -/
def pageSize? (g : Given) : Option UInt64 :=
  (valueOrAbsent? wordValue? (g.value? .pageSize)).map (·.getD defaultPageSize)

/-- The number of a page that was asked for, if one was. -/
def pageIndex? (g : Given) : Option (Option UInt64) :=
  valueOrAbsent? wordValue? (g.value? .page)

/-- The path of the configuration file that was given, if one was. -/
def config? (g : Given) : Option (Option String) := valueOrAbsent? pathValue? (g.value? .config)

/-- The command with a name, from what was given to it. -/
def command? (g : Given) : CommandName → Option Command
  | .init =>
    match g.words, valueOrAbsent? pathValue? (g.value? .sample) with
    | [], some sample => some (.init sample)
    | _, _ => none
  | .compile =>
    match g.words.mapM pathValue?, valueOrAbsent? Dialect.ofName? (g.value? .dialect), pageIndex? g,
      pageSize? g with
    | some [file], some dialect, some index, some size =>
      some (.compile file dialect (g.value? .database) (index.map fun i => ⟨size, i⟩) g.json)
    | _, _, _, _ => none
  | .run =>
    match g.words.mapM pathValue?, pageIndex? g, pageSize? g with
    | some [file], some index, some size =>
      some (.run file (g.value? .database) ⟨size, index.getD 1⟩)
    | _, _, _ => none
  | .check =>
    match g.words.mapM pathValue? with
    | some [] => some (.check ".")
    | some [directory] => some (.check directory)
    | _ => none
  | .order =>
    match g.words with
    | [request] => some (.order request)
    | _ => none

end CommandName

/-! ## The whole line -/

namespace Invocation

/-- What may stand before the name of the command. -/
def leadingForm : Form := ⟨[.config], false⟩

/-- The command that a name and its arguments are, after what was given before the name. -/
def afterName? (leading : Given) (word : String) (arguments : List String) : Option Invocation :=
  match CommandName.ofText? word with
  | none => none
  | some name =>
    match name.form.given? arguments, CommandName.config? leading with
    | some g, some before =>
      match CommandName.config? g, name.command? g with
      | some config, some command => some ⟨config <|> before, command⟩
      | _, _ => none
    | _, _ => none

/-- The command line that goes on after what was given. The first word is the command's name. -/
def afterGiven? (leading : Given) : List String → Option Invocation
  | [] => none
  | argument :: arguments =>
    match leading.waiting, Argument.ofText argument with
    | none, .word word => afterName? leading word arguments
    | none, .ending => none
    | _, _ =>
      match leading.take? leadingForm argument with
      | some leading => afterGiven? leading arguments
      | none => none

/-- The command that a command line asks for. -/
def ofArguments? (arguments : List String) : Option Invocation :=
  afterGiven? Given.nothing arguments

end Invocation

end SqlFilter
