import SqlFilter.Proofs.Names

/-!
# What a walk does, read off its visited fields

The trace of a filter is what its visited fields do, one after the other, up to the first that
fails.  Here both halves of that are made explicit: each visited field makes at most one
registration, `Visit.registration?`, and a walk makes those of the fields before the failing one
and of the failing one itself, which may have opened a scope already.

What a field does depends on nothing inside it, only on whether a filter is there.  So it is the
same for a field with the same `Field.surface`.

## Main results

* `Trace.inOrder_eq_of_forall`, `Trace.inOrder_eq_of_fails`: traces in order, in one piece.
* `Visit.steps_trace`: what one visited field registers.
* `Compiler.trace_root`: the trace of the outermost filter.
-/

namespace SqlFilter

/-! ## Traces in order -/

namespace Trace

theorem inOrder_eq_of_forall {ts : List Trace} (h : ∀ t ∈ ts, t.error = none) :
    inOrder ts = ⟨ts.flatMap steps, none⟩ := by
  induction ts with
  | nil => rfl
  | cons t rest ih =>
      have ht : t.error = none := h t List.mem_cons_self
      rw [inOrder, ih fun u hu => h u (List.mem_cons_of_mem _ hu), andThen, ht]
      rfl

/-- Traces in order stop at the first that fails, with what it registered before it failed. -/
theorem inOrder_eq_of_fails {before : List Trace} (hbefore : ∀ t ∈ before, t.error = none)
    {t : Trace} {e : CompileError} (ht : t.error = some e) (after : List Trace) :
    inOrder (before ++ t :: after) = ⟨(before ++ [t]).flatMap steps, some e⟩ := by
  have hfails : inOrder (t :: after) = t := by rw [inOrder, andThen, ht]
  rw [inOrder_append, inOrder_eq_of_forall hbefore, hfails, List.flatMap_append]
  rcases t with ⟨steps, error⟩
  simp only at ht
  simp [andThen, ht]

@[simp] theorem error_below (path : List String) (t : Trace) : (below path t).error = t.error := by
  induction path with
  | nil => rfl
  | cons on path ih => rw [below, under, ih]

end Trace

/-! ## The registration of a visited field -/

/-- What a field registers under a tag, seen from the scope that the field is in; nothing if it
fails. -/
def registered? (d : Dialect) (tag : Tag) (target : Target) (name : String) (value : FieldValue) :
    Option Registration :=
  match emit d tag target name value with
  | .error _ => none
  | .ok emission => emission.registration? tag.group

/-- What a visited field registers, seen from where the walk started; nothing if it fails before,
is skipped or is zero. -/
def Visit.registration? (d : Dialect) (v : Visit) : Option Registration :=
  match v.field.readTag with
  | none => none
  | some tag =>
    if v.field.isZero then none
    else
      (registered? d tag (Compiler.target tag v.place.table v.field.name) v.field.name
        v.field.value).map fun r => ⟨v.place.path ++ r.path, r.clause⟩

namespace Compiler

theorem steps_contribution (c : Compiler) (p : Place) (f : Field) :
    (c.contribution p f).steps.map (fun r => ⟨p.path ++ r.path, r.clause⟩) =
      (Visit.registration? c.dialect ⟨p, f⟩).toList := by
  rcases f with ⟨name, _ | text, isZero, value⟩
  · cases value with
    | nested inner =>
        show (c.enter p.inside.depth).steps.map _ = _
        rw [enter_steps]
        rfl
    | _ => rfl
  · unfold contribution Visit.registration?
    cases hparse : Tag.parse text with
    | error e => simp [Field.readTag, hparse, Trace.fail]
    | ok parsed =>
        cases parsed with
        | none => simp [Field.readTag, hparse, Trace.done]
        | some tag =>
            cases isZero with
            | true => simp [Field.readTag, hparse, Trace.done]
            | false =>
                cases hemit : emit c.dialect tag (target tag p.table name) name value with
                | error e =>
                    simp [Field.readTag, hparse, registered?, hemit, Trace.ofEmission, Trace.fail]
                | ok emission =>
                    cases emission with
                    | join on joined =>
                        simp [Field.readTag, hparse, registered?, hemit, Trace.ofEmission,
                          Trace.opening, Trace.step, Trace.andThen, Trace.under,
                          Registration.under, enter_steps, Emission.registration?]
                    | _ =>
                        simp [Field.readTag, hparse, registered?, hemit, Trace.ofEmission,
                          Trace.step, Trace.done, Emission.registration?]

end Compiler

/-- A visited field makes at most one registration. -/
theorem Visit.steps_trace (c : Compiler) (v : Visit) :
    (v.trace c).steps = (v.registration? c.dialect).toList := by
  rw [Visit.trace, Trace.steps_below]
  exact c.steps_contribution v.place v.field

/-- What visited fields register, one after the other. -/
theorem Visit.flatMap_steps (c : Compiler) (vs : List Visit) :
    (vs.map (Visit.trace c)).flatMap Trace.steps =
      vs.filterMap (Visit.registration? c.dialect) := by
  induction vs with
  | nil => rfl
  | cons v rest ih =>
      rw [List.map_cons, List.flatMap_cons, ih, Visit.steps_trace, List.filterMap_cons]
      cases v.registration? c.dialect <;> rfl

/-! ## The trace of the outermost filter -/

/-- The trace of a filter that stands in no other is what its visited fields do. -/
theorem Compiler.trace_root (c : Compiler) (f : Filter) (parent : String) :
    c.trace 0 parent f =
      Trace.inOrder ((f.visits c.dialect (.root parent)).map (Visit.trace c)) := by
  have htrace := c.trace_eq_visits (.root parent) f
  have henter : c.enter 0 = .done := if_neg (Nat.not_lt_zero _)
  have hroot : Trace.below [] (c.trace 0 parent f) = (c.enter 0).andThen
      (Trace.inOrder ((f.visits c.dialect (.root parent)).map (Visit.trace c))) := htrace
  rw [henter, Trace.done_andThen] at hroot
  exact hroot

/-! ## Fields from outside -/

/-- A value from outside: of a filter, only that there is one. -/
def FieldValue.surface : FieldValue → FieldValue
  | .nested _ => .nested ⟨"", []⟩
  | value => value

/-- A field from outside. -/
def Field.surface (f : Field) : Field := { f with value := f.value.surface }

/-- A visited field from outside. -/
def Visit.surface (v : Visit) : Visit := ⟨v.place, v.field.surface⟩

theorem emit_surface (d : Dialect) (tag : Tag) (target : Target) (name : String)
    (value : FieldValue) : emit d tag target name value.surface = emit d tag target name value := by
  cases value with
  | nested inner => cases hop : tag.operator <;> simp only [emit, hop] <;> rfl
  | _ => rfl

theorem Compiler.contribution_surface (c : Compiler) (p : Place) (f : Field) :
    c.contribution p f.surface = c.contribution p f := by
  rcases f with ⟨name, _ | text, isZero, value⟩
  · cases value <;> rfl
  · show Compiler.contribution c p ⟨name, some text, isZero, value.surface⟩ = _
    simp only [contribution, emit_surface]

/-- What a visited field does does not depend on what is inside it. -/
theorem Visit.trace_surface (c : Compiler) (v : Visit) : v.surface.trace c = v.trace c := by
  show Trace.below v.place.path (c.contribution v.place v.field.surface) = _
  rw [Compiler.contribution_surface]
  rfl

theorem Visit.map_trace_surface (c : Compiler) (vs : List Visit) :
    (vs.map Visit.surface).map (Visit.trace c) = vs.map (Visit.trace c) := by
  rw [List.map_map]
  exact List.map_congr_left fun v _ => v.trace_surface c

theorem Visit.registration?_surface (d : Dialect) (v : Visit) :
    v.surface.registration? d = v.registration? d := by
  -- What it registers are the steps of its trace, under any limit.
  have hsteps := congrArg (fun t => t.steps.head?) (v.trace_surface ⟨d, 0⟩)
  simpa only [Visit.steps_trace, Option.head?_toList] using hsteps

end SqlFilter
