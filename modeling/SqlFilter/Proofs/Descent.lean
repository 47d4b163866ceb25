import SqlFilter.Proofs.Offence

/-!
# How deep a walk goes

The limit on depth is tested where a filter is entered, in the middle of a walk that may also stop
for something else.  To see what the limit does to the outcome, a filter is walked without one: a
`Descent` is what such a walk does, together with the depth of the deepest filter that it enters
until it comes to its end or to an error.  The outermost filter lies at depth 0, and each filter in
a field without a tag and each one under a join that is not zero lies one deeper than the field.

That depth is all there is to a limit.  A walk with a limit that reaches as far does the same, and
any other one stops for its depth, whatever else is wrong further on.

## Main results

* `Filter.descent`: the walk without a limit.
* `Trace.KeepsTo`: a limited walk set against a descent, and what keeps the relation.
* `Compiler.trace_keepsTo`: every walk keeps to the descent.
* `Compiler.depth_limit_exact`.
-/

namespace SqlFilter

/-! ## Descents -/

/-- What a walk without a limit does, and the depth of the deepest filter that it enters. -/
structure Descent where
  trace : Trace
  deepest : Nat

namespace Descent

/-- A walk that enters no filter. -/
def flat (t : Trace) : Descent := ⟨t, 0⟩

/-- Entering a filter at a depth. -/
def enter (depth : Nat) : Descent := ⟨.done, depth⟩

/-- One walk and then another, which does not take place and enters nothing if the first one
stopped. -/
def andThen (first second : Descent) : Descent :=
  ⟨first.trace.andThen second.trace,
    match first.trace.error with
    | some _ => first.deepest
    | none => max first.deepest second.deepest⟩

/-- What a field contributes. After a join the walk goes on inside. -/
def ofEmission (group : Group) (inner : String → String → Descent)
    (emitted : Except CompileError Emission) : Descent :=
  ⟨.ofEmission group (fun on joined => (inner on joined).trace) emitted,
    match emitted with
    | .ok (.join on joined) => (inner on joined).deepest
    | _ => 0⟩

end Descent

mutual
/-- The walk of a filter at a depth, without a limit. -/
def Filter.descent (d : Dialect) (depth : Nat) (parent : String) : Filter → Descent
  | ⟨table, fields⟩ =>
    (Descent.enter depth).andThen
      (Field.descentAll d depth (if table = "" then parent else table) fields)

/-- The walk of fields, in order. -/
def Field.descentAll (d : Dialect) (depth : Nat) (table : String) : List Field → Descent
  | [] => .flat .done
  | field :: rest => (field.descent d depth table).andThen (Field.descentAll d depth table rest)

/-- The walk of one field. -/
def Field.descent (d : Dialect) (depth : Nat) (table : String) : Field → Descent
  | ⟨name, none, _, value⟩ => value.descentUntagged d depth table name
  | ⟨name, some text, isZero, value⟩ =>
    match Tag.parse text with
    | .error e => .flat (.fail (.tag name e))
    | .ok none => .flat .done
    | .ok (some tag) =>
      if isZero then .flat .done
      else
        .ofEmission tag.group (fun _ joined => value.descentInner d depth joined)
          (emit d tag (Compiler.target tag table name) name value)

/-- The walk of what a field without a tag holds. -/
def FieldValue.descentUntagged (d : Dialect) (depth : Nat) (table name : String) :
    FieldValue → Descent
  | .nested inner => inner.descent d (depth + 1) table
  | .null => .flat .done
  | _ => .flat (.fail (.notAFilter table name))

/-- The walk of a filter that a value holds. -/
def FieldValue.descentInner (d : Dialect) (depth : Nat) (table : String) : FieldValue → Descent
  | .nested inner => inner.descent d (depth + 1) table
  | _ => .flat .done
end

/-! ## Walks with a limit -/

/-- What a walk that began with an empty condition comes to. -/
def Trace.outcome (t : Trace) : Except CompileError Condition :=
  match t.error with
  | some e => .error e
  | none => .ok (Condition.empty.registerAll t.steps)

/-- A walk with a limit keeps to a walk without one: it does the same if it may go as deep, and
else it stops for its depth. -/
structure Trace.KeepsTo (maxDepth : Nat) (t : Trace) (whole : Descent) : Prop where
  same : whole.deepest ≤ maxDepth → t = whole.trace
  tooDeep : maxDepth < whole.deepest → t.error = some (.tooDeep maxDepth)

namespace Trace.KeepsTo

variable {maxDepth : Nat}

/-- Where no filter is entered there is nothing to limit. -/
theorem flat (t : Trace) : t.KeepsTo maxDepth (.flat t) :=
  ⟨fun _ => rfl, fun h => absurd h (Nat.not_lt_zero _)⟩

/-- Entering a filter stops exactly past the limit. -/
theorem enter (d : Dialect) (depth : Nat) :
    (Compiler.enter ⟨d, maxDepth⟩ depth).KeepsTo maxDepth (.enter depth) := by
  constructor
  · intro hdepth
    exact if_neg (Nat.not_lt.mpr hdepth)
  · intro hdeep
    rw [Compiler.error_enter_iff]
    exact ⟨hdeep, rfl⟩

/-- Walks in sequence keep to descents in sequence. -/
theorem andThen {t u : Trace} {a b : Descent} (ht : t.KeepsTo maxDepth a)
    (hu : u.KeepsTo maxDepth b) : (t.andThen u).KeepsTo maxDepth (a.andThen b) := by
  have hfirst : maxDepth < a.deepest → (t.andThen u).error = some (.tooDeep maxDepth) := by
    intro hdeep
    have herror := ht.tooDeep hdeep
    rw [Trace.andThen, herror]
    exact herror
  rcases a with ⟨⟨steps, _ | e⟩, deepest⟩
  · -- The first walk goes through, so it is the deeper of the two that counts.
    constructor
    · intro hdepth
      have hdepths : deepest ≤ maxDepth ∧ b.deepest ≤ maxDepth := Nat.max_le.mp hdepth
      rw [ht.same hdepths.1, hu.same hdepths.2]
      rfl
    · intro hdeep
      by_cases hdeepest : maxDepth < deepest
      · exact hfirst hdeepest
      · have hsecond : maxDepth < b.deepest := by
          simp only [Descent.andThen] at hdeep
          omega
        rw [ht.same (Nat.not_lt.mp hdeepest)]
        exact hu.tooDeep hsecond
  · -- The first walk stops, and nothing that comes after it counts.
    constructor
    · intro hdepth
      rw [ht.same hdepth]
      rfl
    · exact hfirst

/-- What a field contributes keeps to its descent if what is walked inside it does. -/
theorem ofEmission {group : Group} {inner : String → String → Trace}
    {whole : String → String → Descent}
    (h : ∀ on joined, (inner on joined).KeepsTo maxDepth (whole on joined))
    (emitted : Except CompileError Emission) :
    (Trace.ofEmission group inner emitted).KeepsTo maxDepth
      (.ofEmission group whole emitted) := by
  cases emitted with
  | error e => exact .flat _
  | ok emission =>
      cases emission with
      | join on joined =>
          obtain ⟨hsame, hdeep⟩ := h on joined
          refine ⟨fun hdepth => ?_, fun hdepth => hdeep hdepth⟩
          show Trace.opening on (inner on joined) = Trace.opening on (whole on joined).trace
          rw [hsame hdepth]
      | predicate p => exact .flat _
      | order term => exact .flat _
      | nothing => exact .flat _

end Trace.KeepsTo

namespace Compiler

/-- The trace of a filter begins where the filter is entered. -/
theorem trace_eq_enter_andThen (c : Compiler) (depth : Nat) (parent table : String)
    (fields : List Field) :
    c.trace depth parent ⟨table, fields⟩ =
      (c.enter depth).andThen
        (c.traceFields depth (if table = "" then parent else table) fields) := by
  rw [trace, enter]
  split <;> rfl

section Limited

variable (d : Dialect) (maxDepth : Nat)

mutual
/-- **A walk with a limit keeps to the walk without one**, at every depth it may start from. -/
theorem trace_keepsTo (depth : Nat) (parent : String) : ∀ f : Filter,
    (trace ⟨d, maxDepth⟩ depth parent f).KeepsTo maxDepth (f.descent d depth parent)
  | ⟨table, fields⟩ => by
      rw [trace_eq_enter_andThen, Filter.descent]
      exact (Trace.KeepsTo.enter d depth).andThen (traceFields_keepsTo depth _ fields)

theorem traceFields_keepsTo (depth : Nat) (table : String) : ∀ fields : List Field,
    (traceFields ⟨d, maxDepth⟩ depth table fields).KeepsTo maxDepth
      (Field.descentAll d depth table fields)
  | [] => .flat _
  | field :: rest => by
      rw [traceFields, Field.descentAll]
      exact (traceField_keepsTo depth table field).andThen (traceFields_keepsTo depth table rest)

theorem traceField_keepsTo (depth : Nat) (table : String) : ∀ field : Field,
    (traceField ⟨d, maxDepth⟩ depth table field).KeepsTo maxDepth (field.descent d depth table)
  | ⟨name, none, isZero, value⟩ => by
      rw [traceField, Field.descent]
      cases value with
      | nested inner => exact trace_keepsTo (depth + 1) table inner
      | null => exact .flat _
      | scalar v => exact .flat _
      | list vs => exact .flat _
  | ⟨name, some text, isZero, value⟩ => by
      unfold traceField Field.descent
      cases Tag.parse text with
      | error e => exact .flat _
      | ok parsed =>
          cases parsed with
          | none => exact .flat _
          | some tag =>
              cases isZero with
              | true => exact .flat _
              | false =>
                  apply Trace.KeepsTo.ofEmission
                  intro on joined
                  cases value with
                  | nested inner => exact trace_keepsTo (depth + 1) joined inner
                  | null => exact .flat _
                  | scalar v => exact .flat _
                  | list vs => exact .flat _
end

end Limited

/-! ## The limit as a threshold -/

/-- A walk that stops for its depth names its own limit. -/
theorem maxDepth_eq_of_tooDeep {c : Compiler} {f : Filter} {parent : String} {maxDepth : Nat}
    (h : (c.trace 0 parent f).error = some (.tooDeep maxDepth)) : maxDepth = c.maxDepth := by
  rcases Visit.sound_or_firstOffence c.maxDepth (f.visits c.dialect (.root parent)) with
    hsound | ⟨before, v, e, hfirst⟩
  · rw [trace_of_sound c f parent hsound] at h
    cases h
  · rw [trace_of_firstOffence hfirst (hfirst.visited.map _)] at h
    cases h
    cases hfirst.offends
    rfl

/-- A walk without a limit does not stop for its depth. -/
theorem descent_error_ne_tooDeep (d : Dialect) (f : Filter) (parent : String) (maxDepth : Nat) :
    (f.descent d 0 parent).trace.error ≠ some (.tooDeep maxDepth) := by
  -- With two limits that are both deep enough it would name both of them.
  intro herror
  have hnames : ∀ limit, (f.descent d 0 parent).deepest ≤ limit → maxDepth = limit := by
    intro limit hlimit
    rw [← (trace_keepsTo d limit 0 parent f).same hlimit] at herror
    exact maxDepth_eq_of_tooDeep herror
  have hsame := hnames _ (Nat.le_refl _)
  have hnext := hnames _ (Nat.le_succ _)
  omega

theorem compile_eq_outcome (c : Compiler) (f : Filter) :
    c.compile f = (c.trace 0 f.table f).outcome := by
  rw [compile, resolve_eq_run]
  rfl

/-- What a filter compiles to under a limit, from the walk without one. -/
theorem compile_eq_descent (d : Dialect) (maxDepth : Nat) (f : Filter) :
    (⟨d, maxDepth⟩ : Compiler).compile f =
      if (f.descent d 0 f.table).deepest ≤ maxDepth then (f.descent d 0 f.table).trace.outcome
      else .error (.tooDeep maxDepth) := by
  have hkeeps := trace_keepsTo d maxDepth 0 f.table f
  rw [compile_eq_outcome]
  split
  · rename_i hdepth
    rw [hkeeps.same hdepth]
  · rename_i hdeep
    rw [Trace.outcome, hkeeps.tooDeep (Nat.lt_of_not_le hdeep)]

/-- **The depth limit is an exact threshold**, the depth of the deepest filter that a walk without
a limit enters.  From there on, every limit gives the outcome of that walk, which is never that it
is too deep; below, every limit gives an error that names it.  So a higher limit changes no outcome
but that one. -/
theorem depth_limit_exact (d : Dialect) (f : Filter) :
    (∀ parent maxDepth, (f.descent d 0 parent).trace.error ≠ some (.tooDeep maxDepth)) ∧
    (∀ parent maxDepth collector,
      ((f.descent d 0 parent).deepest ≤ maxDepth →
        (⟨d, maxDepth⟩ : Compiler).resolve f collector parent =
          (f.descent d 0 parent).trace.run collector) ∧
      (maxDepth < (f.descent d 0 parent).deepest →
        ((⟨d, maxDepth⟩ : Compiler).resolve f collector parent).error =
          some (.tooDeep maxDepth))) ∧
    (∀ maxDepth, (⟨d, maxDepth⟩ : Compiler).compile f =
      if (f.descent d 0 f.table).deepest ≤ maxDepth then (f.descent d 0 f.table).trace.outcome
      else .error (.tooDeep maxDepth)) ∧
    ∀ maxDepth higher : Nat, maxDepth ≤ higher →
      (⟨d, maxDepth⟩ : Compiler).compile f ≠ .error (.tooDeep maxDepth) →
        (⟨d, higher⟩ : Compiler).compile f = (⟨d, maxDepth⟩ : Compiler).compile f := by
  refine ⟨descent_error_ne_tooDeep d f, ?_, fun maxDepth => compile_eq_descent d maxDepth f, ?_⟩
  · intro parent maxDepth collector
    have hkeeps := trace_keepsTo d maxDepth 0 parent f
    rw [resolve_eq_run]
    refine ⟨fun hdepth => ?_, fun hdeep => hkeeps.tooDeep hdeep⟩
    rw [hkeeps.same hdepth]
  · intro maxDepth higher hle hcompile
    rw [compile_eq_descent] at hcompile ⊢
    have hdepth : (f.descent d 0 f.table).deepest ≤ maxDepth := by
      by_contra hdeep
      rw [if_neg hdeep] at hcompile
      exact hcompile rfl
    rw [compile_eq_descent, if_pos hdepth, if_pos (Nat.le_trans hdepth hle)]

/-- Users with the large totals of their orders in a group.  The field behind the orders has a tag
that names no operator, and behind it there are groups in groups. -/
def usersUpToAge : Filter :=
  ⟨"users",
    [⟨"Orders", some "type:join;join:orders;on:user_id,id", false, .nested ⟨"",
        [⟨"Totals", none, true, .nested ⟨"",
          [⟨"Total", some "type:gte", false, .scalar (.int 9)⟩]⟩⟩]⟩⟩,
      ageBetween,
      ⟨"Groups", none, false, .nested ⟨"", [⟨"Inner", none, false, .nested ⟨"",
        [⟨"Innermost", none, false, .nested ⟨"", []⟩⟩]⟩⟩]⟩⟩]⟩

theorem depth_limit_exact_usersUpToAge :
    (usersUpToAge.descent .mysql 0 "users").deepest = 2 ∧
      ((⟨.mysql, 1⟩ : Compiler).resolve usersUpToAge .empty "users").error = some (.tooDeep 1) ∧
      (⟨.mysql, 2⟩ : Compiler).resolve usersUpToAge .empty "users" =
        (usersUpToAge.descent .mysql 0 "users").trace.run .empty ∧
      (⟨.mysql, 2⟩ : Compiler).compile usersUpToAge =
        .error (.tag "Age" (.unknownOperator "between")) ∧
      (⟨.mysql, 40⟩ : Compiler).compile usersUpToAge =
        (⟨.mysql, 2⟩ : Compiler).compile usersUpToAge := by
  have hdeepest : (usersUpToAge.descent .mysql 0 "users").deepest = 2 := by decide +kernel
  have hcompile : (⟨.mysql, 2⟩ : Compiler).compile usersUpToAge =
      .error (.tag "Age" (.unknownOperator "between")) := by decide +kernel
  obtain ⟨-, hresolve, -, hhigher⟩ := depth_limit_exact .mysql usersUpToAge
  refine ⟨hdeepest, (hresolve "users" 1 .empty).2 ?_,
    (hresolve "users" 2 .empty).1 (Nat.le_of_eq hdeepest), hcompile, hhigher 2 40 (by decide) ?_⟩
  · rw [hdeepest]
    decide
  · rw [hcompile]
    intro h
    cases h

end Compiler

end SqlFilter
