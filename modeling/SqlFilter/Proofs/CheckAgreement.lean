import SqlFilter.Command.Outcome
import SqlFilter.Proofs.DiskReading
import SqlFilter.Proofs.Intent
import Mathlib.Algebra.GroupWithZero.Nat

/-!
# Checking and compiling agree

Checking a directory and compiling one file go different ways.  A check takes every file as far as
it goes and counts what is wrong with it; compiling stops at the first thing that is wrong.  What
is there to be found is the same.  A file that does not load is one error.  One that loads but does
not compile is two, since both dialects fail alike.  What is left is a missing table, which a check
only warns of, while compiling has no statement without one.

`Config.Verdict` has these three cases with what a check prints in each of them, and everything that
a check says follows from the verdicts on its files.

## Main results

* `Config.fails_or_compiles`: compiling for both dialects.
* `Config.Verdict`, `Config.verdict_lines`: what a check can print about a file.
* `Disk.errors_check`: the errors of a check, file by file.
* `Config.Reports`, `Disk.reports_check`: all that a check prints.
* `Invocation.CompilesFor.status_eq_zero_iff`: when compiling a file succeeds.
* `Disk.read_of_mem_definitionFiles`: the files that a check finds can be read by their paths.
* `Invocation.check_agrees_with_compile`.
-/

namespace SqlFilter

/-! ## Verdicts -/

/-- **A filter compiles for both dialects, or it fails for both with the same error.** -/
theorem Config.fails_or_compiles (c : Config) (f : Filter) :
    (∃ e, ∀ dialect, (c.compiler dialect).compile f = .error e) ∨
      ∀ dialect, ∃ condition, (c.compiler dialect).compile f = .ok condition := by
  have hsame : ∀ d d' e, (c.compiler d).compile f = .error e →
      (c.compiler d').compile f = .error e := by
    intro d d' e h
    rw [Compiler.compile_eq_error_iff] at h ⊢
    exact (Compiler.error_trace_eq d' d _ f f.table).trans h
  cases hmysql : (c.compiler .mysql).compile f with
  | error e => exact .inl ⟨e, fun dialect => hsame .mysql dialect e hmysql⟩
  | ok condition =>
      refine .inr fun dialect => ?_
      cases hother : (c.compiler dialect).compile f with
      | ok condition => exact ⟨condition, rfl⟩
      | error e =>
          rw [hsame dialect .mysql e hother] at hmysql
          cases hmysql

/-- What a check prints about the definition in a file with a name, if it compiles: a warning if it
has no table. -/
def Definition.warnings (d : Definition) (name : String) : List String :=
  if d.table = "" then ["WARN:  " ++ name ++ " - No table set, fields cannot be qualified"] else []

/-- What a check prints about a file, and how many errors are among it. -/
inductive Config.Verdict (c : Config) (f : DefinitionFile) : List String → Nat → Prop
  /-- The file does not load. -/
  | unloadable {e : LoadError} (hload : Definition.load f.path f.text = .error e) :
      Verdict c f ["ERROR: " ++ f.name ++ " - " ++ Text.joinWith ": " e.messages] 1
  /-- The file loads, and it compiles for neither dialect. -/
  | uncompilable {d : Definition} {e : CompileError}
      (hload : Definition.load f.path f.text = .ok d)
      (hcompile : ∀ dialect, (c.compiler dialect).compile d.toFilter = .error e) :
      Verdict c f (d.warnings f.name ++
        ["ERROR: " ++ f.name ++ " [mysql] - " ++ e.message,
          "ERROR: " ++ f.name ++ " [pgsql] - " ++ e.message]) 2
  /-- The file loads, and it compiles for both dialects. -/
  | sound {d : Definition} (hload : Definition.load f.path f.text = .ok d)
      (hcompile : ∀ dialect, ∃ condition, (c.compiler dialect).compile d.toFilter = .ok condition) :
      Verdict c f (d.warnings f.name) 0

namespace Finding

theorem line_load (name : String) (e : LoadError) :
    line name (.load e) = "ERROR: " ++ name ++ " - " ++ Text.joinWith ": " e.messages := by
  have hmark : Severity.error.mark ++ " " = "ERROR: " := by decide
  show Severity.error.mark ++ " " ++ name ++ (" - " ++ Text.joinWith ": " e.messages) = _
  rw [hmark, ← String.append_assoc]

theorem line_noTable (name : String) :
    line name .noTable = "WARN:  " ++ name ++ " - No table set, fields cannot be qualified" := by
  have hmark : Severity.warning.mark ++ " " = "WARN:  " := by decide
  show Severity.warning.mark ++ " " ++ name ++ _ = _
  rw [hmark]

theorem line_compile (name : String) (dialect : Dialect) (e : CompileError) :
    line name (.compile dialect e) =
      "ERROR: " ++ name ++ (" [" ++ dialect.name ++ "] - ") ++ e.message := by
  have hmark : Severity.error.mark ++ " " = "ERROR: " := by decide
  show Severity.error.mark ++ " " ++ name ++ (" [" ++ dialect.name ++ "] - " ++ e.message) = _
  rw [hmark]
  simp only [String.append_assoc]

/-- How many errors there are among findings. -/
def errorsIn (findings : List Finding) : Nat :=
  findings.countP fun finding => finding.severity = .error

end Finding

/-- What is found in a definition that compiles: at most that it has no table. -/
def Definition.tableFindings (d : Definition) : List Finding :=
  if d.table = "" then [.noTable] else []

/-- A missing table is no error. -/
theorem Definition.errorsIn_tableFindings (d : Definition) :
    Finding.errorsIn d.tableFindings = 0 := by
  unfold tableFindings
  split <;> rfl

theorem Definition.map_line_tableFindings (d : Definition) (name : String) :
    d.tableFindings.map (Finding.line name) = d.warnings name := by
  unfold tableFindings warnings
  split
  · rw [List.map_singleton, Finding.line_noTable]
  · rfl

/-- The errors that a file contributes to a check. -/
def Config.errorsOf (c : Config) (f : DefinitionFile) : Nat :=
  Finding.errorsIn (c.findings f.path f.text)

/-- The lines that a check prints about a file. -/
def Config.linesAbout (c : Config) (f : DefinitionFile) : List String :=
  (c.findings f.path f.text).map (Finding.line f.name)

/-- What is found in compiling a definition is found for both dialects or for none. -/
theorem Config.compileFindings_eq (c : Config) (d : Definition) :
    (∃ e, (∀ dialect, (c.compiler dialect).compile d.toFilter = .error e) ∧
      [Dialect.mysql, .postgres].filterMap (c.compileFinding? d) =
        [.compile .mysql e, .compile .postgres e]) ∨
    (∀ dialect, ∃ condition, (c.compiler dialect).compile d.toFilter = .ok condition) ∧
      [Dialect.mysql, .postgres].filterMap (c.compileFinding? d) = [] := by
  rcases c.fails_or_compiles d.toFilter with ⟨e, hfails⟩ | hcompiles
  · refine .inl ⟨e, hfails, ?_⟩
    simp [Config.compileFinding?, hfails]
  · obtain ⟨_, hmysql⟩ := hcompiles .mysql
    obtain ⟨_, hpostgres⟩ := hcompiles .postgres
    refine .inr ⟨hcompiles, ?_⟩
    simp [Config.compileFinding?, hmysql, hpostgres]

/-- **What a check prints about a file is one of the verdicts.** -/
theorem Config.verdict_lines (c : Config) (f : DefinitionFile) :
    c.Verdict f (c.linesAbout f) (c.errorsOf f) := by
  unfold Config.linesAbout Config.errorsOf Config.findings
  cases hload : Definition.load f.path f.text with
  | error e =>
      have hline := Finding.line_load f.name e
      have hone : Finding.errorsIn [.load e] = 1 := rfl
      simp only [List.map_singleton, hline, hone]
      exact .unloadable hload
  | ok d =>
      have htable : (if d.table = "" then [Finding.noTable] else []) = d.tableFindings := rfl
      simp only [htable]
      rcases c.compileFindings_eq d with ⟨e, hfails, hboth⟩ | ⟨hcompiles, hneither⟩
      · have htwo : Finding.errorsIn
            (d.tableFindings ++ [.compile .mysql e, .compile .postgres e]) = 2 := by
          rw [Finding.errorsIn, List.countP_append, ← Finding.errorsIn, d.errorsIn_tableFindings]
          rfl
        have hlines : [Finding.compile .mysql e, .compile .postgres e].map (Finding.line f.name) =
            ["ERROR: " ++ f.name ++ " [mysql] - " ++ e.message,
              "ERROR: " ++ f.name ++ " [pgsql] - " ++ e.message] := by
          simp only [List.map_cons, List.map_nil, Finding.line_compile]
          rfl
        rw [hboth, htwo, List.map_append, d.map_line_tableFindings, hlines]
        exact .uncompilable hload hfails
      · rw [hneither, List.append_nil, d.errorsIn_tableFindings, d.map_line_tableFindings]
        exact .sound hload hcompiles

/-- Whether a definition loads depends on the text alone; the path is only for messages. -/
theorem Definition.load_eq_ok_iff {path text : String} {d : Definition} :
    Definition.load path text = .ok d ↔ Definition.ofText? text = some d ∧ d.fault? = none := by
  unfold Definition.load
  constructor
  · intro h
    split at h
    · cases h
    · rename_i found hfound
      split at h
      · cases h
      · rename_i hfault
        cases h
        exact ⟨hfound, hfault⟩
  · rintro ⟨hread, hfault⟩
    simp only [hread, hfault]

namespace Config

/-- A text has a definition that loads and compiles for a dialect, and that has a table. -/
structure Accepts (c : Config) (text : String) (dialect : Dialect) (d : Definition) : Prop where
  reads : Definition.ofText? text = some d
  faultless : d.fault? = none
  compiles : ∃ condition, (c.compiler dialect).compile d.toFilter = .ok condition
  hasTable : d.table ≠ ""

theorem Accepts.load_eq {c : Config} {text : String} {dialect : Dialect} {d : Definition}
    (h : c.Accepts text dialect d) (path : String) : Definition.load path text = .ok d :=
  Definition.load_eq_ok_iff.mpr ⟨h.reads, h.faultless⟩

namespace Verdict

variable {c : Config} {f : DefinitionFile} {lines : List String} {errors : Nat}
  (h : c.Verdict f lines errors)
include h

/-- There are errors if the file does not load, or loads and does not compile. -/
theorem errors_pos_iff : 0 < errors ↔
    (∃ e, Definition.load f.path f.text = .error e) ∨
      ∃ d, Definition.load f.path f.text = .ok d ∧
        ∃ dialect e, (c.compiler dialect).compile d.toFilter = .error e := by
  cases h with
  | @unloadable e hload => exact iff_of_true Nat.one_pos (.inl ⟨e, hload⟩)
  | @uncompilable d e hload hcompile =>
      exact iff_of_true Nat.two_pos (.inr ⟨d, hload, .mysql, e, hcompile .mysql⟩)
  | @sound d hload hcompile =>
      refine iff_of_false (Nat.lt_irrefl 0) ?_
      rw [hload]
      rintro (⟨e, he⟩ | ⟨_, ⟨⟩, dialect, e, he⟩)
      · cases he
      · obtain ⟨condition, hcondition⟩ := hcompile dialect
        rw [hcondition] at he
        cases he

/-- Nothing is printed if the definition is accepted for both dialects. -/
theorem lines_eq_nil_iff : lines = [] ↔ ∀ dialect, ∃ d, c.Accepts f.text dialect d := by
  cases h with
  | @unloadable e hload =>
      refine iff_of_false (List.cons_ne_nil _ _) fun hall => ?_
      obtain ⟨d, haccepts⟩ := hall .mysql
      rw [haccepts.load_eq f.path] at hload
      cases hload
  | @uncompilable d e hload hcompile =>
      refine iff_of_false
        (List.append_ne_nil_of_right_ne_nil _ (List.cons_ne_nil _ _)) fun hall => ?_
      obtain ⟨d', haccepts⟩ := hall .mysql
      obtain ⟨condition, hcondition⟩ := haccepts.compiles
      rw [haccepts.load_eq f.path] at hload
      cases hload
      rw [hcompile] at hcondition
      cases hcondition
  | @sound d hload hcompile =>
      have htable : d.warnings f.name = [] ↔ d.table ≠ "" := by
        simp [Definition.warnings]
      obtain ⟨hreads, hfaultless⟩ := Definition.load_eq_ok_iff.mp hload
      rw [htable]
      constructor
      · exact fun hne dialect => ⟨d, hreads, hfaultless, hcompile dialect, hne⟩
      · intro hall
        obtain ⟨d', haccepts⟩ := hall .mysql
        rw [haccepts.load_eq f.path] at hload
        cases hload
        exact haccepts.hasTable

end Verdict

end Config

/-! ## A whole check -/

/-- All that a check of some files prints: where they are, the lines about them in some order, and
a line that sums these up.  What is no error among the lines is a warning. -/
def Config.Reports (c : Config) (directory : String) (files : List DefinitionFile)
    (printed : List String) : Prop :=
  ∃ lines errors warnings, lines.Perm (files.flatMap c.linesAbout) ∧
    errors = (files.map c.errorsOf).sum ∧ lines.length = errors + warnings ∧
    printed = ["Checking filters in: " ++ directory] ++ lines ++
      ["", if lines = [] then "✓ No issues found in " ++ toString files.length ++ " files."
        else "Found " ++ toString errors ++ " error(s), " ++ toString warnings ++
          " warning(s) in " ++ toString files.length ++ " files."]

namespace Disk

/-- The errors of a check are those of its files. -/
theorem errors_check (d : Disk) (c : Config) (path : String) :
    (d.check c path).errors = ((d.definitionFiles path).map c.errorsOf).sum := by
  simp only [check, List.countP_flatMap]
  refine congrArg List.sum (List.map_congr_left fun f _ => ?_)
  rw [Function.comp_apply, List.countP_map]
  rfl

/-- The lines of a check are those about its files, in another order. -/
theorem lines_check_perm (d : Disk) (c : Config) (path : String) :
    (d.check c path).lines.Perm ((d.definitionFiles path).flatMap c.linesAbout) := by
  have hlines : ((d.definitionFiles path).flatMap fun f =>
      (c.findings f.path f.text).map (f.name, ·)).map (fun found => found.2.line found.1) =
        (d.definitionFiles path).flatMap c.linesAbout := by
    rw [List.map_flatMap]
    simp only [List.map_map]
    rfl
  exact hlines ▸ List.mergeSort_perm _ _

/-- Every line of a check is an error or a warning. -/
theorem length_lines_check (d : Disk) (c : Config) (path : String) :
    (d.check c path).lines.length = (d.check c path).errors + (d.check c path).warnings := by
  have hother : ∀ finding : Finding,
      (¬ decide (finding.severity = .error) = true) ↔ finding.severity = .warning := by
    intro finding
    cases finding.severity <;> decide
  simp only [check, List.length_mergeSort, List.length_map]
  rw [List.length_eq_countP_add_countP fun found : String × Finding =>
    decide (found.2.severity = .error)]
  simp only [hother]

/-- What a check prints. -/
theorem reports_check (d : Disk) (c : Config) (path : String) :
    c.Reports path (d.definitionFiles path) (c.checkFiles d path).1 := by
  have hlength := d.length_lines_check c path
  have hnone : (d.check c path).errors = 0 ∧ (d.check c path).warnings = 0 ↔
      (d.check c path).lines = [] := by
    rw [← List.length_eq_zero_iff, hlength, Nat.add_eq_zero_iff]
  refine ⟨(d.check c path).lines, (d.check c path).errors, (d.check c path).warnings,
    d.lines_check_perm c path, d.errors_check c path, hlength, ?_⟩
  simp only [Config.checkFiles, CheckResult.summary, hnone]
  rfl

/-- **A file that a check finds can be read by its path**, and it is the text that was checked. -/
theorem read_of_mem_definitionFiles {d : Disk} (hroot : d.root.WellFormed) {path : String}
    {f : DefinitionFile} (h : f ∈ d.definitionFiles path) : d.read f.path = .ok f.text := by
  obtain ⟨⟨names, text⟩, hfile, hf⟩ := List.mem_filterMap.mp h
  simp only at hf
  split at hf
  · split at hf
    · cases hf
      exact read_of_mem_filesUnder hroot hfile
    · cases hf
  · cases hf

end Disk

/-! ## Compiling one file -/

/-- The invocation compiles the file for the dialect with the configuration.  The dialect can be
named or be that of a database; the page and the format do not matter. -/
structure Invocation.CompilesFor (s : Surroundings) (c : Config) (file : String)
    (dialect : Dialect) (i : Invocation) : Prop where
  config : s.loadConfig i.config = .ok c
  command : ∃ named database paging json,
    i.command = .compile file named database paging json ∧ named.getD (c.dialect database) = dialect

namespace Invocation

variable {s : Surroundings} {c : Config}

/-- **Compiling a file succeeds if its text is accepted.** -/
theorem CompilesFor.status_eq_zero_iff {file text : String} {dialect : Dialect} {i : Invocation}
    (h : i.CompilesFor s c file dialect) (hread : s.disk.read file = .ok text) :
    (i.outcome s).ending.status = 0 ↔ ∃ d, c.Accepts text dialect d := by
  obtain ⟨config, command⟩ := i
  obtain ⟨hconfig, named, database, paging, json, hcommand, rfl⟩ := h
  simp only at hcommand hconfig
  subst hcommand
  have hloaded : s.disk.loadDefinition file = Definition.load file text := by
    rw [Disk.loadDefinition, hread]
  simp only [outcome, Surroundings.withConfig, hconfig, Config.compileFile, Config.select, hloaded]
  cases hload : Definition.load file text with
  | error e =>
      refine iff_of_false (by simp [Ending.status]) ?_
      rintro ⟨d, haccepts⟩
      rw [haccepts.load_eq file] at hload
      cases hload
  | ok d =>
      have hthe : ∀ {d'}, c.Accepts text (named.getD (c.dialect database)) d' → d' = d := by
        intro d' haccepts
        rw [haccepts.load_eq file] at hload
        cases hload
        rfl
      obtain ⟨hreads, hfaultless⟩ := Definition.load_eq_ok_iff.mp hload
      simp only [Config.selectOf]
      cases hcompile : (c.compiler (named.getD (c.dialect database))).compile d.toFilter with
      | error e =>
          refine iff_of_false (by simp [Ending.status]) ?_
          rintro ⟨d', haccepts⟩
          obtain ⟨condition, hcondition⟩ := haccepts.compiles
          rw [hthe haccepts, hcompile] at hcondition
          cases hcondition
      | ok condition =>
          by_cases htable : d.table = ""
          · refine iff_of_false (by simp [htable, Ending.status]) ?_
            rintro ⟨d', haccepts⟩
            exact haccepts.hasTable (hthe haccepts ▸ htable)
          · refine iff_of_true (by simp [htable, Ending.status]) ?_
            exact ⟨d, hreads, hfaultless, ⟨condition, hcompile⟩, htable⟩

/-! ## The agreement -/

/-- **Checking and compiling agree.**  A check prints nothing about a file exactly if compiling it
succeeds for both dialects, whatever page and format are asked for; and on a well-formed disk the
file can be compiled by the path it was found under.  What a check prints about a file is one of
the verdicts, so the file has no error, one or two, and never that of one dialect alone.  A check
prints what it has to say about its files, in some order, and sums it up.  It fails exactly if some
file does not load, or loads and does not compile. -/
theorem check_agrees_with_compile {named : Option String} (hconfig : s.loadConfig named = .ok c)
    (directory : String) :
    (∀ f ∈ s.disk.definitionFiles directory,
        (s.disk.root.WellFormed → s.disk.read f.path = .ok f.text) ∧
        (∀ file, s.disk.read file = .ok f.text → ∀ compiling : Dialect → Invocation,
          (∀ dialect, (compiling dialect).CompilesFor s c file dialect) →
          (c.linesAbout f = [] ↔
            ∀ dialect, ((compiling dialect).outcome s).ending.status = 0)) ∧
        c.Verdict f (c.linesAbout f) (c.errorsOf f)) ∧
      (s.disk.check c directory).errors =
        ((s.disk.definitionFiles directory).map c.errorsOf).sum ∧
      c.Reports directory (s.disk.definitionFiles directory)
        (outcome s ⟨named, .check directory⟩).lines ∧
      ((outcome s ⟨named, .check directory⟩).ending.status ≠ 0 ↔
        ∃ f ∈ s.disk.definitionFiles directory,
          (∃ e, Definition.load f.path f.text = .error e) ∨
            ∃ d, Definition.load f.path f.text = .ok d ∧
              ∃ dialect e, (c.compiler dialect).compile d.toFilter = .error e) := by
  have hcheck : outcome s ⟨named, .check directory⟩ =
      ⟨(c.checkFiles s.disk directory).1, (c.checkFiles s.disk directory).2, s.disk⟩ := by
    simp only [outcome, Surroundings.withConfig, hconfig]
  refine ⟨fun f hf => ⟨fun hroot => Disk.read_of_mem_definitionFiles hroot hf, ?_,
    c.verdict_lines f⟩, s.disk.errors_check c directory, ?_, ?_⟩
  · intro file hread compiling hcompiling
    rw [(c.verdict_lines f).lines_eq_nil_iff]
    exact forall_congr' fun dialect =>
      ((hcompiling dialect).status_eq_zero_iff hread).symm
  · rw [hcheck]
    exact s.disk.reports_check c directory
  · have hstatus : (outcome s ⟨named, .check directory⟩).ending.status ≠ 0 ↔
        (s.disk.check c directory).errors ≠ 0 := by
      rw [hcheck, Config.checkFiles]
      by_cases hnone : (s.disk.check c directory).errors = 0
      · simp [hnone, Ending.status]
      · simp [hnone, Ending.status]
    rw [hstatus, Disk.errors_check, ← Nat.pos_iff_ne_zero, List.sum_pos_iff_exists_pos_nat]
    simp only [List.mem_map, exists_exists_and_eq_and, (c.verdict_lines _).errors_pos_iff]

/-- A directory with a definition, one without a table that does not compile, one that does not
load, and a file that is none. -/
def filters : Entry :=
  .directory
    [("users.yaml",
        .file "table: users\nfields:\n  - name: age\n    query: type:gt\n    value: 40\n"),
      ("ages.yml", .file "fields:\n  - name: age\n    query: type:between\n    value: 40\n"),
      ("broken.json", .file "["), ("notes.txt", .file "all of them")]

/-- The files in it that a check looks at. -/
def filterFiles : List DefinitionFile :=
  [⟨"filters/users.yaml", "users.yaml",
      "table: users\nfields:\n  - name: age\n    query: type:gt\n    value: 40\n"⟩,
    ⟨"filters/ages.yml", "ages.yml",
      "fields:\n  - name: age\n    query: type:between\n    value: 40\n"⟩,
    ⟨"filters/broken.json", "broken.json", "["⟩]

/-- What it prints about them, in the order of the files. -/
def filterLines : List String :=
  ["WARN:  ages.yml - No table set, fields cannot be qualified",
    "ERROR: ages.yml [mysql] - field 'age': unknown query operator 'between'",
    "ERROR: ages.yml [pgsql] - field 'age': unknown query operator 'between'",
    "ERROR: broken.json - Failed to parse filter file: filters/broken.json"]

/-- A disk with that directory, and nothing configured. -/
def amongFilters : Surroundings :=
  ⟨⟨.directory [("filters", filters)], []⟩, none, none⟩

/-- Compiling the first of them, with its third page, as JSON. -/
def usersAsJson (dialect : Dialect) : Invocation :=
  ⟨none, .compile "filters/users.yaml" (some dialect) none (some ⟨20, 3⟩) true⟩

/-- The file that is all right compiles for both dialects under the path it is found by, and nothing
is printed about it.  The lines about the others add up to three errors and a warning, and the check
fails. -/
theorem check_agrees_with_compile_amongFilters :
    amongFilters.loadConfig none = .ok .empty ∧ amongFilters.disk.root.WellFormed ∧
      (∀ dialect, ((usersAsJson dialect).outcome amongFilters).ending.status = 0) ∧
      (amongFilters.disk.check .empty "filters").errors = 3 ∧
      (∃ lines, lines.Perm filterLines ∧
        (outcome amongFilters ⟨none, .check "filters"⟩).lines =
          ["Checking filters in: filters"] ++ lines ++
            ["", "Found 3 error(s), 1 warning(s) in 3 files."]) ∧
      (outcome amongFilters ⟨none, .check "filters"⟩).ending.status ≠ 0 := by
  have hconfig : amongFilters.loadConfig none = .ok .empty := by decide +kernel
  have hnames : ["users.yaml", "ages.yml", "broken.json", "notes.txt"].Nodup := by decide
  have hroot : amongFilters.disk.root.WellFormed :=
    ⟨by decide, ⟨by decide, hnames, ⟨by decide, trivial⟩, ⟨by decide, trivial⟩,
      ⟨by decide, trivial⟩, ⟨by decide, trivial⟩, trivial⟩, trivial⟩
  have hfiles : amongFilters.disk.definitionFiles "filters" = filterFiles := by decide +kernel
  have hlines : filterFiles.flatMap (Config.linesAbout .empty) = filterLines := by decide +kernel
  have hthree : (filterFiles.map (Config.errorsOf .empty)).sum = 3 := by decide +kernel
  obtain ⟨hagree, herrors, hreports, hfails⟩ := check_agrees_with_compile hconfig "filters"
  rw [hfiles] at hagree herrors hreports hfails
  obtain ⟨hread, hcompile, -⟩ := hagree _ List.mem_cons_self
  have hcompiles := (hcompile "filters/users.yaml" (hread hroot)
    usersAsJson fun dialect => ⟨hconfig, _, _, _, _, rfl, rfl⟩).mp (by decide +kernel)
  refine ⟨hconfig, hroot, hcompiles, herrors.trans hthree, ?_, hfails.mpr ?_⟩
  · obtain ⟨lines, errors, warnings, hperm, hsum, hlength, hprinted⟩ := hreports
    rw [hlines] at hperm
    rw [hthree] at hsum
    have hfour : lines.length = 4 := hperm.length_eq
    have hone : warnings = 1 := by omega
    have hsome : ¬ lines = [] := List.ne_nil_of_length_pos (by omega)
    rw [if_neg hsome, hsum, hone] at hprinted
    exact ⟨lines, hperm, hprinted⟩
  · have hbroken : (Definition.ofText? "[").isNone := by decide +kernel
    have hload : Definition.load "filters/broken.json" "[" =
        .error (.unparsable "filters/broken.json") := by
      rw [Definition.load, Option.isNone_iff_eq_none.mp hbroken]
    exact ⟨_, List.mem_cons_of_mem _ (List.mem_cons_of_mem _ List.mem_cons_self),
      .inl ⟨_, hload⟩⟩

end Invocation

end SqlFilter
