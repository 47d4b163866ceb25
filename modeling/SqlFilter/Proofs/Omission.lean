import SqlFilter.Proofs.Changes
import SqlFilter.Proofs.Inlining

/-!
# Fields that ask for nothing

A field asks for nothing if its tag skips it, if it is zero under a tag that can be read, or if it
has no tag and holds nothing.  A walk comes by such a field and goes on: it registers nothing, it
does not go into the field, and it does not stop there.

So the field may as well not be there, and what it holds does not matter, be it a value that its
operator could not take or a filter that is wrong itself.  Whatever else a walk registers or stops
at stays as it is.

## Main results

* `Field.Omitted`, `Field.Omitted.surfaces_eq`, `Field.Omitted.trace_eq`: such a field is all that
  is visited of it, and it does nothing.
* `Omits`: the changes of such fields.
* `Compiler.omitted_fields_leave_no_trace`.
-/

namespace SqlFilter

/-- The field asks for nothing. -/
inductive Field.Omitted (f : Field) : Prop
  /-- Its tag says to skip it. -/
  | skipped {text : String} (htag : f.tag = some text) (hparse : Tag.parse text = .ok none)
  /-- It is zero, and its tag can be read. -/
  | zero {text : String} {parsed : Option Tag} (htag : f.tag = some text)
      (hparse : Tag.parse text = .ok parsed) (hzero : f.isZero = true)
  /-- It has no tag and holds nothing. -/
  | absent (htag : f.tag = none) (hvalue : f.value = .null)

namespace Field.Omitted

variable {f : Field} (h : f.Omitted)
include h

/-- Under a tag it does not matter what the field holds. -/
theorem revalue {value : FieldValue} (hvalue : f.tag = none → value = .null) :
    Omitted { f with value } := by
  cases h with
  | skipped htag hparse => exact .skipped htag hparse
  | zero htag hparse hzero => exact .zero htag hparse hzero
  | absent htag _ => exact .absent htag (hvalue htag)

/-- A walk does not go into the field. -/
theorem visits_eq (d : Dialect) (p : Place) : f.visits d p = [⟨p, f⟩] := by
  rcases f with ⟨name, tag, isZero, value⟩
  cases h with
  | skipped htag hparse =>
      cases htag
      simp [visits, hparse]
  | @zero text parsed htag hparse hzero =>
      cases htag
      cases hzero
      cases parsed <;> simp [visits, hparse]
  | absent htag hvalue =>
      cases htag
      cases hvalue
      rfl

/-- The field does nothing. -/
theorem trace_eq (c : Compiler) (p : Place) : Visit.trace c ⟨p, f⟩ = .done := by
  have hcontribution : c.contribution p f = .done := by
    rcases f with ⟨name, tag, isZero, value⟩
    cases h with
    | skipped htag hparse =>
        cases htag
        simp [Compiler.contribution, hparse]
    | @zero text parsed htag hparse hzero =>
        cases htag
        cases hzero
        cases parsed <;> simp [Compiler.contribution, hparse]
    | absent htag hvalue =>
        cases htag
        cases hvalue
        rfl
  rw [Visit.trace, hcontribution]
  exact Trace.below_done p.path

end Field.Omitted

/-- A field that asks for nothing is left out, or something else is put into it.  Its zero flag
stays, and without a tag it still holds nothing. -/
inductive Omits : (fields fields' : List Field) → Prop
  | leftOut {before after : List Field} {field : Field} (h : field.Omitted) :
      Omits (before ++ field :: after) (before ++ after)
  | revalued {before after : List Field} {field : Field} {value : FieldValue} (h : field.Omitted)
      (hvalue : field.tag = none → value = .null) :
      Omits (before ++ field :: after) (before ++ { field with value } :: after)

namespace Compiler

variable (c : Compiler)

/-- A field that asks for nothing makes no difference to what the fields around it do. -/
theorem inOrder_surfaces_omitted (p : Place) (before after : List Field) {field : Field}
    (h : field.Omitted) :
    Trace.inOrder ((Field.surfaces c.dialect p (before ++ field :: after)).map (Visit.trace c)) =
      Trace.inOrder ((Field.surfaces c.dialect p (before ++ after)).map (Visit.trace c)) := by
  have hfield : Trace.inOrder ((Field.surfaces c.dialect p [field]).map (Visit.trace c)) =
      .done := by
    rw [Field.surfaces, Visit.map_trace_surface, Field.visitsAll, h.visits_eq]
    simp [Field.visitsAll, Trace.inOrder, h.trace_eq]
  rw [← List.singleton_append, Field.surfaces_append, Field.surfaces_append,
    Field.surfaces_append, inOrder_append_visits, inOrder_append_visits, hfield,
    Trace.done_andThen, inOrder_append_visits]

theorem inOrder_surfaces_omits (p : Place) {fields fields' : List Field}
    (h : Omits fields fields') :
    Trace.inOrder ((Field.surfaces c.dialect p fields).map (Visit.trace c)) =
      Trace.inOrder ((Field.surfaces c.dialect p fields').map (Visit.trace c)) := by
  cases h with
  | leftOut h => exact c.inOrder_surfaces_omitted p _ _ h
  | revalued h hvalue =>
      rw [c.inOrder_surfaces_omitted p _ _ h,
        c.inOrder_surfaces_omitted p _ _ (h.revalue hvalue)]

/-- A walk does the same if fields that ask for nothing are left out or hold something else. -/
theorem trace_omits {f f' : Filter} (h : f.ChangesTo Omits f') (parent : String) :
    c.trace 0 parent f' = c.trace 0 parent f := by
  let does (vs : List Visit) : Trace := .inOrder (vs.map (Visit.trace c))
  have happend : ∀ before {vs ws} after, does vs = does ws →
      does (before ++ (vs ++ after)) = does (before ++ (ws ++ after)) := by
    intro before vs ws after hsame
    simp only [does, inOrder_append_visits] at hsame ⊢
    rw [hsame]
  have hsame := h.surfaces (fun vs ws => does vs = does ws) (fun _ => rfl) happend
    (fun p _ _ => c.inOrder_surfaces_omits p) (.root parent)
  rw [trace_root_surfaces, trace_root_surfaces]
  exact hsame.symm

/-- **Omitted fields leave no trace.**  Wherever in a filter a field is skipped by its tag, is
zero, or has no tag and holds nothing, it can be left out, and under a tag it can hold anything
else: the filter compiles to the same condition or fails with the same error, and resolving it into
any condition leaves the same there. -/
theorem omitted_fields_leave_no_trace {f f' : Filter} (h : f.ChangesTo Omits f') :
    c.compile f' = c.compile f ∧
      ∀ (collector : Condition) (parent : String),
        c.resolve f' collector parent = c.resolve f collector parent := by
  constructor
  · simp only [compile, resolve_eq_run, c.trace_omits h, h.table]
  · intro collector parent
    rw [resolve_eq_run, resolve_eq_run, c.trace_omits h]

/-- Goods that are not to be joined. -/
def noGoods (value : FieldValue) : Field :=
  ⟨"Goods", some "type:join;join:goods;on:order_id,id", true, value⟩

theorem omitted_noGoods (value : FieldValue) : (noGoods value).Omitted := by
  have hparse : Tag.parse "type:join;join:goods;on:order_id,id" =
      .ok (some ⟨.join, none, none, some ⟨"goods", "order_id", "id"⟩, .and⟩) := by decide +kernel
  exact .zero rfl hparse rfl

theorem omitted_fields_leave_no_trace_noGoods :
    (usersWithOrdersAnd (noGoods (.list []) :: largeTotals)).ChangesTo Omits
        (usersWithOrdersAnd largeTotals) ∧
      (⟨.mysql, 1⟩ : Compiler).compile (usersWithOrdersAnd largeTotals) =
        (⟨.mysql, 1⟩ : Compiler).compile
          (usersWithOrdersAnd (noGoods (.list []) :: largeTotals)) ∧
      (⟨.mysql, 1⟩ : Compiler).resolve
          (usersWithOrdersAnd [noGoods (.nested (usersWithOrdersAnd largeTotals))]) .empty "users" =
        (⟨.mysql, 1⟩ : Compiler).resolve (usersWithOrdersAnd [noGoods (.list [])]) .empty
          "users" := by
  have hinside : ∀ {fields fields' : List Field}, Omits fields fields' →
      (⟨"users", [⟨"Orders", some "type:join;join:orders;on:user_id,id", false,
        .nested ⟨"", fields⟩⟩]⟩ : Filter).ChangesTo Omits
      ⟨"users", [⟨"Orders", some "type:join;join:orders;on:user_id,id", false,
        .nested ⟨"", fields'⟩⟩]⟩ :=
    fun h => ⟨rfl, @ChangedIn.inside Omits [] [] _ _ _ _ _ _ (.here h)⟩
  have hleftOut : (usersWithOrdersAnd (noGoods (.list []) :: largeTotals)).ChangesTo Omits
      (usersWithOrdersAnd largeTotals) :=
    hinside (@Omits.leftOut [_] _ _ (omitted_noGoods _))
  have hrevalued : (usersWithOrdersAnd [noGoods (.list [])]).ChangesTo Omits
      (usersWithOrdersAnd [noGoods (.nested (usersWithOrdersAnd largeTotals))]) :=
    hinside (@Omits.revalued [_] [] _ _ (omitted_noGoods _) nofun)
  exact ⟨hleftOut, (omitted_fields_leave_no_trace _ hleftOut).1,
    (omitted_fields_leave_no_trace _ hrevalued).2 .empty "users"⟩

end Compiler

end SqlFilter
