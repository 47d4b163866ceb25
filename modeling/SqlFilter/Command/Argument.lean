import SqlFilter.Number.Decimal
import SqlFilter.Text.Space

/-!
# Arguments

The arguments of a command are settings with a value, written `--name value` or `--name=value`, the
flag `--json`, and words. A value of its own may be anything that does not look like an option, and
a single hyphen does not. After `--` there are only words. Nothing may be given twice, and a
setting that the command does not have is a mistake.

Arguments are taken one after the other; a `Given` holds what there was so far, and the setting
that still waits for its value.

## Main definitions

* `Argument.ofText`: what an argument looks like.
* `Given.take?`: one more argument. `Form.given?`: all of them.
* `pathValue?`, `wordValue?`: values of a kind.
-/

namespace SqlFilter

/-! ## The look of an argument -/

/-- A setting that takes a value. -/
inductive Setting where
  | config
  | sample
  | dialect
  | database
  | page
  | pageSize
  deriving DecidableEq, Repr

/-- The name of a setting, as it follows two hyphens. -/
def Setting.name : Setting → String
  | .config => "config"
  | .sample => "example"
  | .dialect => "dialect"
  | .database => "database"
  | .page => "page"
  | .pageSize => "page-size"

/-- The name of the only flag. -/
def jsonFlag : String := "json"

/-- What an argument looks like before it is known what it is for. -/
inductive Argument where
  | word (text : String)
  | option (name : String) (value : Option String)
  /-- Two hyphens on their own, which end the options. -/
  | ending
  /-- A hyphen and letters, which is no option of any command. -/
  | short
  deriving DecidableEq, Repr

/-- The look of an argument. -/
def Argument.ofText (text : String) : Argument :=
  match text.toList with
  | ['-', '-'] => .ending
  | '-' :: '-' :: cs =>
    match Text.cutChars '=' cs with
    | some (name, value) => .option (String.ofList name) (some (String.ofList value))
    | none => .option (String.ofList cs) none
  | '-' :: _ :: _ => .short
  | _ => .word text

/-! ## Taking arguments -/

/-- What a command can be given besides words. -/
structure Form where
  settings : List Setting
  json : Bool
  deriving DecidableEq, Repr

/-- What was given so far. -/
structure Given where
  values : List (Setting × String)
  json : Bool
  words : List String
  /-- The setting whose value is the next argument. -/
  waiting : Option Setting
  ended : Bool
  deriving DecidableEq, Repr

namespace Given

/-- What was given before the first argument. -/
def nothing : Given := ⟨[], false, [], none, false⟩

/-- The value of a setting, if it was given. -/
def value? (g : Given) (s : Setting) : Option String := g.values.lookup s

/-- One more word. -/
def addWord (g : Given) (word : String) : Given := { g with words := g.words ++ [word] }

/-- The value of a setting, or the setting alone if its value is still to come. -/
def addSetting (g : Given) (s : Setting) : Option String → Given
  | some value => { g with values := g.values ++ [(s, value)], waiting := none }
  | none => { g with waiting := some s }

/-- One more option, if the command has it and it was not given before. -/
def addOption? (form : Form) (g : Given) (name : String) (value : Option String) : Option Given :=
  match form.settings.find? fun s => s.name = name with
  | some s => if (g.value? s).isSome then none else some (g.addSetting s value)
  | none =>
    if form.json ∧ name = jsonFlag ∧ value = none ∧ g.json = false then some { g with json := true }
    else none

/-- One more argument. -/
def take? (form : Form) (g : Given) (text : String) : Option Given :=
  if g.ended then some (g.addWord text)
  else
    match g.waiting, Argument.ofText text with
    | some s, .word value => some (g.addSetting s (some value))
    | some _, _ => none
    | none, .word word => some (g.addWord word)
    | none, .option name value => g.addOption? form name value
    | none, .ending => some { g with ended := true }
    | none, .short => none

/-- What was given, if no setting waits for its value. -/
def settled? (g : Given) : Option Given := if g.waiting = none then some g else none

end Given

/-- What the arguments of a command give. -/
def Form.given? (form : Form) (arguments : List String) : Option Given :=
  (arguments.foldlM (Given.take? form) Given.nothing).bind Given.settled?

/-! ## Values -/

/-- A path, which is not empty. -/
def pathValue? (text : String) : Option String := if text = "" then none else some text

/-- A number of 64 bits, which may have a plus before it. -/
def wordValue? (text : String) : Option UInt64 :=
  let digits := match text.toList with
    | '+' :: cs => cs
    | cs => cs
  match Number.digitsValue? 10 digits with
  | some n => if n < UInt64.size then some (UInt64.ofNat n) else none
  | none => none

/-- The value that was read from a setting, which may be left out. -/
def valueOrAbsent? {α : Type} (read : String → Option α) : Option String → Option (Option α)
  | none => some none
  | some text => (read text).map some

end SqlFilter
