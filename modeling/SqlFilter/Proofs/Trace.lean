import SqlFilter.Compile

/-!
# Walks as lists of registrations

A walk takes a condition along, but it never looks at it: what is registered next, and whether
the walk stops, depends on the filter alone.  So a walk is fully described by a `Trace`, the
registrations that it makes and the error that it stops at.  Whatever is to be shown of a
condition can then be shown of a list, without the condition that was there before.

## Main results

* `Trace.run_andThen`, `Trace.run_opening`: walks in sequence and below a join, as traces.
* `Compiler.walk_eq_run`: a walk carries out its trace.
* `Compiler.compile_eq_ok_iff`, `Compiler.compile_eq_error_iff`: compiling, through the trace.
-/

namespace SqlFilter

/-! ## Traces -/

/-- What a walk registers, and the error that it stops at. -/
structure Trace where
  steps : List Registration
  error : Option CompileError

namespace Trace

/-- A walk that does nothing. -/
def done : Trace := ⟨[], none⟩

/-- A walk that stops at once. -/
def fail (e : CompileError) : Trace := ⟨[], some e⟩

/-- A walk that registers one clause in the scope it is in. -/
def step (clause : Clause) : Trace := ⟨[⟨[], clause⟩], none⟩

/-- One walk and then another, which does not take place if the first one stopped. -/
def andThen (first second : Trace) : Trace :=
  match first.error with
  | some _ => first
  | none => ⟨first.steps ++ second.steps, second.error⟩

/-- A walk in the scope of a join. -/
def under (on : String) (inner : Trace) : Trace :=
  ⟨inner.steps.map (Registration.under on), inner.error⟩

/-- A walk in the scope of a join that it opens first. -/
def opening (on : String) (inner : Trace) : Trace := ((step .scope).andThen inner).under on

/-- The trace of what a field contributes, or of its failure. After a join the walk goes on with
the inner trace, in the scope of the join. -/
def ofEmission (group : Group) (inner : String → String → Trace) :
    Except CompileError Emission → Trace
  | .error e => fail e
  | .ok (.predicate p) => step (.predicate group p)
  | .ok (.order term) => step (.order term)
  | .ok .nothing => done
  | .ok (.join on joined) => opening on (inner on joined)

/-- Carries a trace out on a condition. -/
def run (t : Trace) (condition : Condition) : Resolution :=
  ⟨condition.registerAll t.steps, t.error⟩

@[simp] theorem done_andThen (t : Trace) : done.andThen t = t := rfl

@[simp] theorem fail_andThen (e : CompileError) (t : Trace) : (fail e).andThen t = fail e := rfl

@[simp] theorem andThen_done (t : Trace) : t.andThen done = t := by
  rcases t with ⟨steps, _ | e⟩ <;> simp [andThen, done]

theorem andThen_assoc (a b c : Trace) : (a.andThen b).andThen c = a.andThen (b.andThen c) := by
  rcases a with ⟨steps, _ | e⟩
  · rcases b with ⟨steps, _ | e⟩ <;> simp [andThen]
  · rfl

theorem under_andThen (on : String) (a b : Trace) :
    (a.andThen b).under on = (a.under on).andThen (b.under on) := by
  rcases a with ⟨steps, _ | e⟩ <;> simp [andThen, under]

@[simp] theorem under_done (on : String) : done.under on = done := rfl

@[simp] theorem under_fail (on : String) (e : CompileError) : (fail e).under on = fail e := rfl

/-! ## Carrying out a trace -/

@[simp] theorem run_done (condition : Condition) : done.run condition = .ok condition := rfl

@[simp] theorem run_fail (e : CompileError) (condition : Condition) :
    (fail e).run condition = .fail e condition := rfl

@[simp] theorem run_step (clause : Clause) (condition : Condition) :
    (step clause).run condition = .ok (condition.addClause clause) := rfl

theorem run_andThen (a b : Trace) (condition : Condition) :
    (a.andThen b).run condition = (a.run condition).andThen b.run := by
  rcases a with ⟨steps, _ | e⟩
  · simp [run, andThen, Resolution.andThen, Condition.registerAll, List.foldl_append]
  · rfl

end Trace

/-! ## The scope of a join -/

namespace Condition

theorem updateScope_updateScope (on : String) (f g : Condition → Condition)
    (joins : List JoinScope) :
    updateScope on g (updateScope on f joins) = updateScope on (fun s => g (f s)) joins := by
  induction joins with
  | nil => simp [updateScope]
  | cons s rest ih =>
      by_cases h : s.on = on
      · simp [updateScope, h]
      · simp [updateScope, h, ih]

/-- Changing a scope is the same as putting its changed form in its place. -/
theorem updateScope_scopeOf (on : String) (change : Condition → Condition) (c : Condition) :
    updateScope on (fun _ => change (c.scopeOf on)) c.joins = updateScope on change c.joins := by
  obtain ⟨wheres, ors, orders, joins⟩ := c
  induction joins with
  | nil => rfl
  | cons s rest ih =>
      by_cases h : s.on = on
      · simp [updateScope, scopeOf, h]
      · have hrest : scopeOf on ⟨wheres, ors, orders, s :: rest⟩ =
            scopeOf on ⟨wheres, ors, orders, rest⟩ := by
          simp [scopeOf, h]
        simp only [updateScope, h, ↓reduceIte, hrest]
        rw [ih]

/-- Registrations below an open join change its scope and nothing else. -/
theorem registerAll_under (on : String) (steps : List Registration) :
    ∀ (f : Condition → Condition) (c : Condition),
      registerAll { c with joins := updateScope on f c.joins } (steps.map (Registration.under on)) =
        { c with joins := updateScope on (fun s => registerAll (f s) steps) c.joins } := by
  induction steps with
  | nil => intro f c; rfl
  | cons r rest ih =>
      intro f c
      have hstep : register { c with joins := updateScope on f c.joins } (r.under on) =
          { c with joins := updateScope on (fun s => register (f s) r) c.joins } := by
        simp only [register, Registration.under, inScope, updateScope_updateScope]
      have hrest := ih (fun s => register (f s) r) c
      rw [← hstep] at hrest
      exact hrest

/-- Registering in the scope of a join is registering below it, if there is something to register
at all. -/
theorem walkScope_registerAll (on : String) (r : Registration) (rs : List Registration)
    (error : Option CompileError) (condition : Condition) :
    condition.walkScope on (fun scope => ⟨scope.registerAll (r :: rs), error⟩) =
      ⟨condition.registerAll ((r :: rs).map (Registration.under on)), error⟩ := by
  have hunder := registerAll_under on rs (fun scope => scope.register r) condition
  have hscope := updateScope_scopeOf on (fun scope => scope.registerAll (r :: rs)) condition
  simp only [walkScope, hscope]
  exact congrArg (fun c => Resolution.mk c error) hunder.symm

end Condition

theorem Trace.run_opening (on : String) (inner : Trace) (condition : Condition) :
    (Trace.opening on inner).run condition = condition.walkScope on inner.run :=
  (Condition.walkScope_registerAll on ⟨[], .scope⟩ inner.steps inner.error condition).symm

/-! ## The trace of a filter -/

namespace Compiler

mutual
/-- The trace of a filter at a depth. -/
def trace (c : Compiler) (depth : Nat) (parent : String) : Filter → Trace
  | ⟨table, fields⟩ =>
    if c.maxDepth < depth then .fail (.tooDeep c.maxDepth)
    else c.traceFields depth (if table = "" then parent else table) fields

/-- The trace of fields, in order. -/
def traceFields (c : Compiler) (depth : Nat) (table : String) : List Field → Trace
  | [] => .done
  | field :: rest => (c.traceField depth table field).andThen (c.traceFields depth table rest)

/-- The trace of one field. -/
def traceField (c : Compiler) (depth : Nat) (table : String) : Field → Trace
  | ⟨name, none, _, value⟩ => c.traceUntagged depth table name value
  | ⟨name, some text, isZero, value⟩ =>
    match Tag.parse text with
    | .error e => .fail (.tag name e)
    | .ok none => .done
    | .ok (some tag) =>
      if isZero then .done
      else
        .ofEmission tag.group (fun _ joined => c.traceInner depth joined value)
          (emit c.dialect tag (target tag table name) name value)

/-- The trace of a field without a tag. -/
def traceUntagged (c : Compiler) (depth : Nat) (table name : String) : FieldValue → Trace
  | .nested inner => c.trace (depth + 1) table inner
  | .null => .done
  | _ => .fail (.notAFilter table name)

/-- The trace of a filter that a value holds. -/
def traceInner (c : Compiler) (depth : Nat) (table : String) : FieldValue → Trace
  | .nested inner => c.trace (depth + 1) table inner
  | _ => .done
end

mutual
/-- **A walk carries out its trace**, whatever condition it is given. -/
theorem walk_eq_run (c : Compiler) (depth : Nat) (parent : String) :
    ∀ (f : Filter) (condition : Condition),
      c.walk depth parent f condition = (c.trace depth parent f).run condition
  | ⟨table, fields⟩, condition => by
      unfold walk trace
      split
      · rfl
      · exact walkFields_eq_run c depth _ fields condition

theorem walkFields_eq_run (c : Compiler) (depth : Nat) (table : String) :
    ∀ (fields : List Field) (condition : Condition),
      c.walkFields depth table fields condition =
        (c.traceFields depth table fields).run condition
  | [], condition => rfl
  | field :: rest, condition => by
      have hrest : c.walkFields depth table rest = (c.traceFields depth table rest).run :=
        funext fun condition => walkFields_eq_run c depth table rest condition
      rw [walkFields, traceFields, Trace.run_andThen, walkField_eq_run, hrest]

theorem walkField_eq_run (c : Compiler) (depth : Nat) (table : String) :
    ∀ (field : Field) (condition : Condition),
      c.walkField depth table field condition = (c.traceField depth table field).run condition
  | ⟨name, none, _, value⟩, condition => walkUntagged_eq_run c depth table name value condition
  | ⟨name, some text, isZero, value⟩, condition => by
      have hinner : ∀ joined, c.walkInner depth joined value =
          (c.traceInner depth joined value).run := by
        intro joined
        funext scope
        exact walkInner_eq_run c depth joined value scope
      unfold walkField traceField
      cases hparse : Tag.parse text with
      | error e => rfl
      | ok parsed =>
          cases parsed with
          | none => rfl
          | some tag =>
              cases isZero with
              | true => rfl
              | false =>
                  cases hemit : emit c.dialect tag (target tag table name) name value with
                  | error e => simp [hemit, Trace.ofEmission]
                  | ok emission =>
                      cases emission with
                      | predicate p => simp [hemit, Trace.ofEmission, Condition.addClause]
                      | order term => simp [hemit, Trace.ofEmission, Condition.addClause]
                      | nothing => simp [hemit, Trace.ofEmission]
                      | join on joined => simp [hemit, Trace.ofEmission, Trace.run_opening, hinner]

theorem walkUntagged_eq_run (c : Compiler) (depth : Nat) (table name : String) :
    ∀ (value : FieldValue) (condition : Condition),
      c.walkUntagged depth table name value condition =
        (c.traceUntagged depth table name value).run condition
  | .nested inner, condition => walk_eq_run c (depth + 1) table inner condition
  | .null, _ => rfl
  | .scalar _, _ => rfl
  | .list _, _ => rfl

theorem walkInner_eq_run (c : Compiler) (depth : Nat) (table : String) :
    ∀ (value : FieldValue) (condition : Condition),
      c.walkInner depth table value condition = (c.traceInner depth table value).run condition
  | .nested inner, condition => walk_eq_run c (depth + 1) table inner condition
  | .null, _ => rfl
  | .scalar _, _ => rfl
  | .list _, _ => rfl
end

/-! ## Resolving and compiling -/

theorem resolve_eq_run (c : Compiler) (f : Filter) (condition : Condition) (parent : String) :
    c.resolve f condition parent = (c.trace 0 parent f).run condition :=
  c.walk_eq_run 0 parent f condition

theorem compile_eq_ok_iff (c : Compiler) (f : Filter) (condition : Condition) :
    c.compile f = .ok condition ↔
      (c.trace 0 f.table f).error = none ∧
        condition = Condition.empty.registerAll (c.trace 0 f.table f).steps := by
  rw [compile, resolve_eq_run]
  rcases c.trace 0 f.table f with ⟨steps, _ | e⟩
  · simp [Trace.run, eq_comm]
  · simp [Trace.run]

theorem compile_eq_error_iff (c : Compiler) (f : Filter) (e : CompileError) :
    c.compile f = .error e ↔ (c.trace 0 f.table f).error = some e := by
  rw [compile, resolve_eq_run]
  rcases c.trace 0 f.table f with ⟨steps, _ | e'⟩
  · simp [Trace.run]
  · simp [Trace.run]

end Compiler

end SqlFilter
