import SqlFilter.Proofs.Blank
import SqlFilter.Proofs.Visit
import Mathlib.Data.List.Basic

/-!
# Texts do not depend on values

Two filters of the same shape differ in their values only, and not in those that they sort by.
They compile alike: both fail with the same error, or both give conditions that are the same
without their values.  Then their statements have the same texts, too.  So whatever a caller puts
into a filter, apart from its shape and its sort requests, is bound to a mark and never becomes
part of a statement.

## Main results

* `Filter.SameShape`: what two filters have to share.
* `emit_blank_eq`: what one field contributes does not depend on its value.
* `Compiler.texts_independent_of_values`: neither does what a filter compiles to.
-/

namespace SqlFilter

/-! ## Filters of the same shape -/

mutual
/-- The filters have the same tables, and fields of the same shape. -/
def Filter.SameShape : Filter → Filter → Prop
  | ⟨table, fields⟩, ⟨table', fields'⟩ => table = table' ∧ Field.SameShapes fields fields'
termination_by structural f => f

/-- The fields have the same shape one by one, and there are equally many. -/
def Field.SameShapes : List Field → List Field → Prop
  | [], [] => True
  | f :: rest, f' :: rest' => f.SameShape f' ∧ Field.SameShapes rest rest'
  | _, _ => False
termination_by structural fields => fields

/-- The fields have the same name, tag and zero flag, and values of the same shape. A field to
sort by has the same value. -/
def Field.SameShape : Field → Field → Prop
  | ⟨name, tag, isZero, value⟩, ⟨name', tag', isZero', value'⟩ =>
    name = name' ∧ tag = tag' ∧ isZero = isZero' ∧ value.SameShape value' ∧
      ∀ t, Field.HasTag ⟨name, tag, isZero, value⟩ t → t.operator = .order → value = value'
termination_by structural f => f

/-- The values are of the same kind; lists have the same length, and filters the same shape. -/
def FieldValue.SameShape : FieldValue → FieldValue → Prop
  | .null, .null => True
  | .scalar _, .scalar _ => True
  | .list vs, .list vs' => vs.length = vs'.length
  | .nested inner, .nested inner' => inner.SameShape inner'
  | _, _ => False
termination_by structural value => value
end

theorem FieldValue.SameShape.kind_eq {value value' : FieldValue} (h : value.SameShape value') :
    value.kind = value'.kind := by
  cases value <;> cases value' <;> first | rfl | exact False.elim h

/-! ## What one field contributes -/

/-- A predicate does not depend on the value that its operator takes, nor whether there is one. -/
theorem predicate?_blank_eq (d : Dialect) (target : Target) (op : Operator)
    {value value' : FieldValue} (h : value.SameShape value') :
    (predicate? d target op value).map Predicate.blank =
      (predicate? d target op value').map Predicate.blank := by
  cases value with
  | null =>
      cases value' with
      | null => rfl
      | _ => exact False.elim h
  | scalar v =>
      cases value' with
      | scalar v' => cases op <;> rfl
      | _ => exact False.elim h
  | list vs =>
      cases value' with
      | list vs' =>
          have hlength : vs.length = vs'.length := h
          cases op with
          | oneOf =>
              cases vs with
              | nil =>
                  rw [List.eq_nil_of_length_eq_zero hlength.symm]
              | cons v rest =>
                  cases vs' with
                  | nil => cases hlength
                  | cons v' rest' =>
                      simp only [predicate?, Option.map_some, Predicate.blank, hlength,
                        blankParams_eq_of_length_eq hlength]
          | _ => rfl
      | _ => exact False.elim h
  | nested inner =>
      cases value' with
      | nested inner' => cases op <;> rfl
      | _ => exact False.elim h

/-- What a field contributes, without its values. -/
def Emission.blank : Emission → Emission
  | .predicate p => .predicate p.blank
  | .order term => .order term
  | .join on joined => .join on joined
  | .nothing => .nothing

/-- What a field contributes depends on its value only if it sorts. -/
theorem emit_blank_eq (d : Dialect) (tag : Tag) (target : Target) (name : String)
    {value value' : FieldValue} (h : value.SameShape value')
    (horder : tag.operator = .order → value = value') :
    (emit d tag target name value).map Emission.blank =
      (emit d tag target name value').map Emission.blank := by
  by_cases hop : tag.operator = .order
  · rw [horder hop]
  · by_cases hjoin : tag.operator = .join
    · unfold emit
      rw [hjoin]
      cases tag.join with
      | none => rfl
      | some join => cases value <;> cases value' <;> first | rfl | exact False.elim h
    · have hpredicate := predicate?_blank_eq d target tag.operator h
      rw [emit_of_predicate hop hjoin, emit_of_predicate hop hjoin, h.kind_eq]
      cases hp : predicate? d target tag.operator value with
      | none =>
          rw [hp] at hpredicate
          rw [Option.map_eq_none_iff.mp hpredicate.symm]
      | some p =>
          rw [hp] at hpredicate
          obtain ⟨p', hp', hblank⟩ := Option.map_eq_some_iff.mp hpredicate.symm
          rw [hp']
          show Except.ok (Emission.predicate p.blank) = Except.ok (Emission.predicate p'.blank)
          rw [hblank]

/-! ## Traces without their values -/

namespace Trace

theorem blank_andThen (a b : Trace) : (a.andThen b).blank = a.blank.andThen b.blank := by
  rcases a with ⟨steps, _ | e⟩
  · show Trace.mk ((steps ++ b.steps).map Registration.blank) _ = _
    rw [List.map_append]
    rfl
  · rfl

theorem blank_under (on : String) (t : Trace) : (t.under on).blank = t.blank.under on := by
  show Trace.mk ((t.steps.map (Registration.under on)).map Registration.blank) _ =
    Trace.mk ((t.steps.map Registration.blank).map (Registration.under on)) _
  rw [List.map_map, List.map_map]
  rfl

theorem blank_opening (on : String) (t : Trace) : (opening on t).blank = opening on t.blank := by
  rw [opening, blank_under, blank_andThen]
  rfl

end Trace

/-- Contributions that are the same without their values are the same, or are both predicates. -/
theorem Emission.eq_or_predicate_of_blank_eq {e e' : Emission} (h : e.blank = e'.blank) :
    e = e' ∨ ∃ p p', e = .predicate p ∧ e' = .predicate p' ∧ p.blank = p'.blank := by
  cases e with
  | predicate p =>
      cases e' with
      | predicate p' =>
          have hblank : p.blank = p'.blank := Emission.predicate.inj h
          exact .inr ⟨p, p', rfl, rfl, hblank⟩
      | _ => cases h
  | order term =>
      cases e' with
      | order term' => exact .inl h
      | _ => cases h
  | join on joined =>
      cases e' with
      | join on' joined' => exact .inl h
      | _ => cases h
  | nothing =>
      cases e' with
      | nothing => exact .inl rfl
      | _ => cases h

theorem Trace.blank_ofEmission {result result' : Except CompileError Emission}
    (h : result.map Emission.blank = result'.map Emission.blank) (group : Group)
    {inner inner' : String → String → Trace}
    (hinner : ∀ on joined, (inner on joined).blank = (inner' on joined).blank) :
    (ofEmission group inner result).blank = (ofEmission group inner' result').blank := by
  cases result with
  | error e =>
      cases result' with
      | error e' =>
          cases h
          rfl
      | ok emission' => cases h
  | ok emission =>
      cases result' with
      | error e' => cases h
      | ok emission' =>
          have hblank : emission.blank = emission'.blank := Except.ok.inj h
          rcases Emission.eq_or_predicate_of_blank_eq hblank with rfl | ⟨p, p', rfl, rfl, hp⟩
          · cases emission with
            | join on joined =>
                show (opening on _).blank = (opening on _).blank
                rw [blank_opening, blank_opening, hinner]
            | _ => rfl
          · show step (.predicate group p.blank) = step (.predicate group p'.blank)
            rw [hp]

namespace Compiler

mutual
/-- **What a walk registers, and where it stops, does not depend on values.** -/
theorem trace_blank_eq (c : Compiler) (depth : Nat) (parent : String) : ∀ f g : Filter,
    f.SameShape g → (c.trace depth parent f).blank = (c.trace depth parent g).blank
  | ⟨table, fields⟩, ⟨table', fields'⟩, h => by
      obtain ⟨rfl, hfields⟩ := h
      unfold trace
      split
      · rfl
      · exact traceFields_blank_eq c depth _ fields fields' hfields
termination_by structural f => f

theorem traceFields_blank_eq (c : Compiler) (depth : Nat) (table : String) :
    ∀ fields fields' : List Field, Field.SameShapes fields fields' →
      (c.traceFields depth table fields).blank = (c.traceFields depth table fields').blank
  | [], [], _ => rfl
  | [], _ :: _, h => False.elim h
  | _ :: _, [], h => False.elim h
  | f :: rest, f' :: rest', h => by
      rw [traceFields, traceFields, Trace.blank_andThen, Trace.blank_andThen,
        traceField_blank_eq c depth table f f' h.1, traceFields_blank_eq c depth table rest rest' h.2]
termination_by structural fields => fields

theorem traceField_blank_eq (c : Compiler) (depth : Nat) (table : String) : ∀ f f' : Field,
    f.SameShape f' → (c.traceField depth table f).blank = (c.traceField depth table f').blank
  | ⟨name, none, isZero, value⟩, ⟨name', tag', isZero', value'⟩, h => by
      obtain ⟨rfl, rfl, rfl, hvalue, -⟩ := h
      exact traceUntagged_blank_eq c depth table name value value' hvalue
  | ⟨name, some text, isZero, value⟩, ⟨name', tag', isZero', value'⟩, h => by
      obtain ⟨rfl, rfl, rfl, hvalue, horder⟩ := h
      have hinner := fun joined => traceInner_blank_eq c depth joined value value' hvalue
      unfold traceField
      cases hparse : Tag.parse text with
      | error e => rfl
      | ok parsed =>
          cases parsed with
          | none => rfl
          | some tag =>
              cases isZero with
              | true => rfl
              | false =>
                  have hemit := emit_blank_eq c.dialect tag (target tag table name) name hvalue
                    (horder tag ⟨text, rfl, hparse⟩)
                  exact Trace.blank_ofEmission hemit tag.group fun _ joined => hinner joined
termination_by structural f => f

theorem traceUntagged_blank_eq (c : Compiler) (depth : Nat) (table name : String) :
    ∀ value value' : FieldValue, value.SameShape value' →
      (c.traceUntagged depth table name value).blank =
        (c.traceUntagged depth table name value').blank
  | .nested inner, .nested inner', h => trace_blank_eq c (depth + 1) table inner inner' h
  | .null, .null, _ => rfl
  | .scalar _, .scalar _, _ => rfl
  | .list _, .list _, _ => rfl
termination_by structural value => value

theorem traceInner_blank_eq (c : Compiler) (depth : Nat) (table : String) :
    ∀ value value' : FieldValue, value.SameShape value' →
      (c.traceInner depth table value).blank = (c.traceInner depth table value').blank
  | .nested inner, .nested inner', h => trace_blank_eq c (depth + 1) table inner inner' h
  | .null, .null, _ => rfl
  | .scalar _, .scalar _, _ => rfl
  | .list _, .list _, _ => rfl
termination_by structural value => value
end

/-! ## Conditions and statements -/

/-- **Texts do not depend on values.** Filters of the same shape fail with the same error, or they
compile to conditions that differ in nothing but the values of their parameters: scope by scope
they have the same predicates, sort terms and joins in the same order, with equally many
parameters.  Then the statements over them have the same text. -/
theorem texts_independent_of_values (c : Compiler) {f g : Filter} (h : f.SameShape g) :
    (∃ e, c.compile f = .error e ∧ c.compile g = .error e) ∨
      ∃ condition condition', c.compile f = .ok condition ∧ c.compile g = .ok condition' ∧
        condition.blank = condition'.blank ∧
          ∀ (table : String) (limit : Option UInt64) (offset : UInt64) (d : Dialect),
            (Select.query ⟨table, condition, limit, offset⟩ d).sql =
                (Select.query ⟨table, condition', limit, offset⟩ d).sql ∧
              (Select.count ⟨table, condition, limit, offset⟩ d).sql =
                (Select.count ⟨table, condition', limit, offset⟩ d).sql := by
  have htable : f.table = g.table := by
    rcases f with ⟨table, fields⟩
    rcases g with ⟨table', fields'⟩
    exact h.1
  have htrace : (c.trace 0 f.table f).blank = (c.trace 0 g.table g).blank := by
    rw [← htable]
    exact c.trace_blank_eq 0 f.table f g h
  have herror := congrArg Trace.error htrace
  have hsteps := congrArg Trace.steps htrace
  simp only [Trace.blank] at herror hsteps
  cases hf : (c.trace 0 f.table f).error with
  | some e =>
      have hg : (c.trace 0 g.table g).error = some e := by rw [← herror, hf]
      exact .inl ⟨e, (c.compile_eq_error_iff f e).mpr hf, (c.compile_eq_error_iff g e).mpr hg⟩
  | none =>
      have hg : (c.trace 0 g.table g).error = none := by rw [← herror, hf]
      have hblank : (Condition.empty.registerAll (c.trace 0 f.table f).steps).blank =
          (Condition.empty.registerAll (c.trace 0 g.table g).steps).blank := by
        rw [Condition.blank_registerAll, Condition.blank_registerAll, hsteps]
      exact .inr ⟨_, _, (c.compile_eq_ok_iff f _).mpr ⟨hf, rfl⟩,
        (c.compile_eq_ok_iff g _).mpr ⟨hg, rfl⟩, hblank, Select.sql_eq_of_blank_eq hblank⟩

/-- Users by a part of their name, the last ones first. -/
def usersNamed (part : String) : Filter :=
  ⟨"users", [⟨"Name", some "type:like", false, .scalar (.text part)⟩,
    ⟨"Sort", some "type:order;column:id", false, .scalar (.text "desc")⟩]⟩

/-- What that filter asks for. -/
def usersNamedCondition (part : String) : Condition :=
  ⟨[⟨"users.name like ?", [.text ("%" ++ part ++ "%")]⟩], [], ["users.id desc"], []⟩

theorem sameShape_usersNamed (part part' : String) :
    (usersNamed part).SameShape (usersNamed part') := by
  have hparse : Tag.parse "type:like" = .ok (some ⟨.like .anywhere false, none, none, none, .and⟩) := by
    decide +kernel
  refine ⟨rfl, ⟨rfl, rfl, rfl, trivial, ?_⟩, ⟨rfl, rfl, rfl, trivial, fun _ _ _ => rfl⟩, trivial⟩
  rintro tag ⟨text, htext, htag⟩ hop
  cases htext
  rw [hparse] at htag
  cases htag
  cases hop

theorem texts_independent_of_values_usersNamed :
    (usersNamed "bo").SameShape (usersNamed "' OR 1 = 1; --") ∧
      (Select.query (.ofTable "users" (usersNamedCondition "bo")) .mysql).sql =
        (Select.query (.ofTable "users" (usersNamedCondition "' OR 1 = 1; --")) .mysql).sql := by
  have hshape := sameShape_usersNamed "bo" "' OR 1 = 1; --"
  have hfirst : (⟨.postgres, defaultMaxDepth⟩ : Compiler).compile (usersNamed "bo") =
      .ok (usersNamedCondition "bo") := by decide +kernel
  have hsecond : (⟨.postgres, defaultMaxDepth⟩ : Compiler).compile (usersNamed "' OR 1 = 1; --") =
      .ok (usersNamedCondition "' OR 1 = 1; --") := by decide +kernel
  refine ⟨hshape, ?_⟩
  rcases texts_independent_of_values ⟨.postgres, defaultMaxDepth⟩ hshape with
    ⟨e, he, -⟩ | ⟨condition, condition', hcondition, hcondition', -, hsql⟩
  · rw [hfirst] at he
    cases he
  · rw [hfirst] at hcondition
    rw [hsecond] at hcondition'
    cases hcondition
    cases hcondition'
    exact (hsql "users" none 0 .mysql).1

end Compiler

end SqlFilter
