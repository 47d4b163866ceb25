import SqlFilter.Proofs.Outcome
import Mathlib.Data.List.Basic

/-!
# Filters without a tag are only groups

A filter in a field without a tag adds nothing of its own.  If it is about the table in force
anyway, then its fields may as well stand in its place: the outcome is the same, down to the
places of predicates and the error that stops the walk.

Only the depth makes a difference, because what stood one filter deeper may now be walked where it
was too deep before.  So nothing is said if the walk stops for its depth, and that is the reason to
compare traces by `Trace.SameUnlessTooDeep`.

## Main results

* `Inlines`, `Filter.InlinesTo`: a filter with another one put in place of the field that held it.
* `Compiler.sameUnlessTooDeep_shallower`: a walk nearer to the surface does the same.
* `Compiler.compile_inlined`.
-/

namespace SqlFilter

/-! ## Up to the depth -/

namespace Trace

/-- The walk stops for its depth. -/
def TooDeep (t : Trace) : Prop := ∃ maxDepth, t.error = some (.tooDeep maxDepth)

/-- The other walk does the same, unless this one stops for its depth. -/
def SameUnlessTooDeep (t other : Trace) : Prop := t.TooDeep ∨ other = t

theorem SameUnlessTooDeep.refl (t : Trace) : t.SameUnlessTooDeep t := .inr rfl

theorem TooDeep.andThen_left {t : Trace} (h : t.TooDeep) (u : Trace) : (t.andThen u).TooDeep := by
  obtain ⟨maxDepth, herror⟩ := h
  exact ⟨maxDepth, by rw [andThen, herror, herror]⟩

/-- Walks in sequence do the same if each of them does. -/
theorem SameUnlessTooDeep.andThen {t t' u u' : Trace} (ht : t.SameUnlessTooDeep t')
    (hu : u.SameUnlessTooDeep u') : (t.andThen u).SameUnlessTooDeep (t'.andThen u') := by
  rcases ht with hdeep | rfl
  · exact .inl (hdeep.andThen_left u)
  · rcases hu with ⟨maxDepth, herror⟩ | rfl
    · rcases t' with ⟨steps, _ | e⟩
      · exact .inl ⟨maxDepth, herror⟩
      · exact .refl _
    · exact .refl _

theorem SameUnlessTooDeep.opening {t t' : Trace} (h : t.SameUnlessTooDeep t') (on : String) :
    (Trace.opening on t).SameUnlessTooDeep (Trace.opening on t') := by
  rcases h with ⟨maxDepth, herror⟩ | rfl
  · exact .inl ⟨maxDepth, herror⟩
  · exact .refl _

/-- What a field contributes is the same if what is walked after a join is. -/
theorem SameUnlessTooDeep.ofEmission {group : Group} {inner inner' : String → String → Trace}
    {emitted : Except CompileError Emission}
    (h : ∀ on joined, emitted = .ok (.join on joined) →
      (inner on joined).SameUnlessTooDeep (inner' on joined)) :
    (Trace.ofEmission group inner emitted).SameUnlessTooDeep
      (Trace.ofEmission group inner' emitted) := by
  cases emitted with
  | error e => exact .refl _
  | ok emission =>
      cases emission with
      | join on joined => exact (h on joined rfl).opening on
      | predicate p => exact .refl _
      | order term => exact .refl _
      | nothing => exact .refl _

end Trace

/-! ## Nearer to the surface -/

namespace Compiler

variable (c : Compiler)

mutual
/-- **A walk that starts one filter nearer to the surface does the same**, unless the deeper one
stops for its depth. -/
theorem sameUnlessTooDeep_shallower (depth : Nat) (table : String) : ∀ f : Filter,
    (c.trace (depth + 1) table f).SameUnlessTooDeep (c.trace depth table f)
  | ⟨own, fields⟩ => by
      unfold trace
      by_cases hdeep : c.maxDepth < depth + 1
      · rw [if_pos hdeep]
        exact .inl ⟨c.maxDepth, rfl⟩
      · have hshallow : ¬ c.maxDepth < depth := by omega
        rw [if_neg hdeep, if_neg hshallow]
        exact sameUnlessTooDeep_fields depth _ fields

theorem sameUnlessTooDeep_fields (depth : Nat) (table : String) : ∀ fields : List Field,
    (c.traceFields (depth + 1) table fields).SameUnlessTooDeep (c.traceFields depth table fields)
  | [] => .refl _
  | field :: rest => by
      rw [traceFields, traceFields]
      exact (sameUnlessTooDeep_field depth table field).andThen
        (sameUnlessTooDeep_fields depth table rest)

theorem sameUnlessTooDeep_field (depth : Nat) (table : String) : ∀ field : Field,
    (c.traceField (depth + 1) table field).SameUnlessTooDeep (c.traceField depth table field)
  | ⟨name, none, isZero, value⟩ => by
      rw [traceField, traceField]
      cases value with
      | nested inner => exact sameUnlessTooDeep_shallower (depth + 1) table inner
      | null => exact .refl _
      | scalar v => exact .refl _
      | list vs => exact .refl _
  | ⟨name, some text, isZero, value⟩ => by
      unfold traceField
      cases Tag.parse text with
      | error e => exact .refl _
      | ok parsed =>
          cases parsed with
          | none => exact .refl _
          | some tag =>
              cases isZero with
              | true => exact .refl _
              | false =>
                  apply Trace.SameUnlessTooDeep.ofEmission
                  intro on joined _
                  cases value with
                  | nested inner => exact sameUnlessTooDeep_shallower (depth + 1) joined inner
                  | null => exact .refl _
                  | scalar v => exact .refl _
                  | list vs => exact .refl _
end

end Compiler

/-! ## Putting fields in place -/

/-- The table in force inside a filter, where another one is handed to it. -/
def tableInside (handed own : String) : String := if own = "" then handed else own

/-- The table that is handed to a filter under a tag: the joined one, if the tag is a join.  Into
other tagged fields no walk goes, and nothing is in force there. -/
def HandedUnder (text handed : String) : Prop :=
  ∀ tag, Tag.parse text = .ok (some tag) → ∀ join ∈ tag.join, handed = join.table

/-- One list of fields is another one in which the fields of a filter stand in place of the field
without a tag that held it, somewhere inside.  The filter is about the table in force there, or has
none of its own; the fields around it stay as they are, with their tags and zero flags. -/
inductive Inlines : (table : String) → (fields fields' : List Field) → Prop
  /-- The filter stands in the first field. -/
  | here {table name : String} {isZero : Bool} {g : Filter} {rest : List Field}
      (htable : g.table = "" ∨ g.table = table) :
      Inlines table (⟨name, none, isZero, .nested g⟩ :: rest) (g.fields ++ rest)
  /-- It stands somewhere in a filter that the first field holds without a tag. -/
  | untagged {table name own : String} {isZero : Bool} {fields fields' rest : List Field}
      (inside : Inlines (tableInside table own) fields fields') :
      Inlines table (⟨name, none, isZero, .nested ⟨own, fields⟩⟩ :: rest)
        (⟨name, none, isZero, .nested ⟨own, fields'⟩⟩ :: rest)
  /-- It stands somewhere in a filter that the first field holds under a tag. -/
  | tagged {table name own text handed : String} {isZero : Bool}
      {fields fields' rest : List Field} (hhanded : HandedUnder text handed)
      (inside : Inlines (tableInside handed own) fields fields') :
      Inlines table (⟨name, some text, isZero, .nested ⟨own, fields⟩⟩ :: rest)
        (⟨name, some text, isZero, .nested ⟨own, fields'⟩⟩ :: rest)
  /-- It stands behind the first field. -/
  | later {table : String} {field : Field} {rest rest' : List Field}
      (behind : Inlines table rest rest') : Inlines table (field :: rest) (field :: rest')

/-- A filter with the fields of another one put in place of a field without a tag that held it, at
any depth. -/
structure Filter.InlinesTo (f f' : Filter) : Prop where
  table : f'.table = f.table
  fields : Inlines f.table f.fields f'.fields

namespace Compiler

variable (c : Compiler)

theorem traceFields_append (depth : Nat) (table : String) (fields rest : List Field) :
    c.traceFields depth table (fields ++ rest) =
      (c.traceFields depth table fields).andThen (c.traceFields depth table rest) := by
  induction fields with
  | nil => rfl
  | cons field fields ih =>
      rw [List.cons_append, traceFields, ih, traceFields, Trace.andThen_assoc]

/-- A filter about the table in force is walked as its fields would be, unless it lies too deep. -/
theorem trace_sameUnlessTooDeep_fields (depth : Nat) {table : String} {g : Filter}
    (htable : g.table = "" ∨ g.table = table) :
    (c.trace (depth + 1) table g).SameUnlessTooDeep (c.traceFields depth table g.fields) := by
  rcases g with ⟨own, fields⟩
  have hsame : (if own = "" then table else own) = table := by
    rcases htable with hempty | hown
    · exact if_pos hempty
    · rw [show own = table from hown, ite_self]
  rw [trace, hsame]
  split
  · exact .inl ⟨c.maxDepth, rfl⟩
  · exact c.sameUnlessTooDeep_fields depth table fields

theorem trace_sameUnlessTooDeep_of_fields {fields fields' : List Field} {handed own : String}
    {depth : Nat}
    (h : (c.traceFields depth (tableInside handed own) fields).SameUnlessTooDeep
      (c.traceFields depth (tableInside handed own) fields')) :
    (c.trace depth handed ⟨own, fields⟩).SameUnlessTooDeep
      (c.trace depth handed ⟨own, fields'⟩) := by
  unfold trace
  split
  · exact .refl _
  · exact h

/-- **Putting the fields of a filter in its place does not change what a walk does**, unless the
walk stops for its depth. -/
theorem traceFields_inlined {table : String} {fields fields' : List Field}
    (h : Inlines table fields fields') : ∀ depth : Nat,
      (c.traceFields depth table fields).SameUnlessTooDeep (c.traceFields depth table fields') := by
  -- At every depth at once, since the fields inside a filter are walked one level deeper.
  induction h with
  | here htable =>
      intro depth
      rw [traceFields_append, traceFields]
      exact (c.trace_sameUnlessTooDeep_fields depth htable).andThen (.refl _)
  | untagged inside ih =>
      intro depth
      rw [traceFields, traceFields]
      exact (c.trace_sameUnlessTooDeep_of_fields (ih (depth + 1))).andThen (.refl _)
  | @tagged table name own text handed isZero fields fields' rest hhanded inside ih =>
      intro depth
      rw [traceFields, traceFields]
      refine Trace.SameUnlessTooDeep.andThen ?_ (.refl _)
      unfold traceField
      cases hparse : Tag.parse text with
      | error e => exact .refl _
      | ok parsed =>
          cases parsed with
          | none => exact .refl _
          | some tag =>
              cases isZero with
              | true => exact .refl _
              | false =>
                  -- What a join emits does not depend on what is inside the filter.
                  have hemit : emit c.dialect tag (target tag table name) name
                      (.nested ⟨own, fields'⟩) = emit c.dialect tag (target tag table name) name
                        (.nested ⟨own, fields⟩) := by
                    rw [← emit_surface, ← emit_surface _ _ _ _ (.nested ⟨own, fields⟩)]
                    rfl
                  simp only [hemit]
                  apply Trace.SameUnlessTooDeep.ofEmission
                  intro on joined hjoins
                  obtain ⟨join, hjoin, -, -, rfl⟩ := emit_eq_join hjoins
                  rw [← hhanded tag hparse join hjoin]
                  exact c.trace_sameUnlessTooDeep_of_fields (ih (depth + 1))
  | later behind ih =>
      intro depth
      rw [traceFields, traceFields]
      exact Trace.SameUnlessTooDeep.andThen (.refl _) (ih depth)

/-- **A filter without a tag is only a group.**  Where a filter about the table in force, or about
none of its own, stands in a field without a tag, its fields can be put in place of that field:
unless the filter as it was is too deep, the one that comes out compiles to the same condition or
fails with the same error. -/
theorem compile_inlined {f f' : Filter} (h : f.InlinesTo f')
    (hdepth : ∀ maxDepth, c.compile f ≠ .error (.tooDeep maxDepth)) :
    c.compile f' = c.compile f := by
  rcases f with ⟨table, fields⟩
  rcases f' with ⟨table', fields'⟩
  obtain rfl : table' = table := h.table
  have hsame := c.traceFields_inlined h.fields 0
  have hinside : tableInside table' table' = table' := ite_self _
  rw [← hinside] at hsame
  rcases c.trace_sameUnlessTooDeep_of_fields hsame with ⟨maxDepth, herror⟩ | htrace
  · exact absurd ((c.compile_eq_error_iff _ _).mpr herror) (hdepth maxDepth)
  · simp only [compile, resolve_eq_run, htrace]

/-- Users with their orders, in which the given fields come last. -/
def usersWithOrdersAnd (last : List Field) : Filter :=
  ⟨"users", [⟨"Orders", some "type:join;join:orders;on:user_id,id", false, .nested ⟨"",
    ⟨"Status", some "type:eq", false, .scalar (.text "new")⟩ :: last⟩⟩]⟩

/-- Large totals. -/
def largeTotals : List Field := [⟨"Total", some "type:gte;group:or", false, .scalar (.int 9)⟩]

theorem compile_inlined_usersWithOrdersAnd :
    (usersWithOrdersAnd [⟨"Totals", none, true, .nested ⟨"orders", largeTotals⟩⟩]).InlinesTo
        (usersWithOrdersAnd largeTotals) ∧
      (⟨.mysql, 2⟩ : Compiler).compile (usersWithOrdersAnd largeTotals) =
        (⟨.mysql, 2⟩ : Compiler).compile
          (usersWithOrdersAnd [⟨"Totals", none, true, .nested ⟨"orders", largeTotals⟩⟩]) := by
  have hhanded : HandedUnder "type:join;join:orders;on:user_id,id" "orders" := by
    have hparse : Tag.parse "type:join;join:orders;on:user_id,id" =
        .ok (some ⟨.join, none, none, some ⟨"orders", "user_id", "id"⟩, .and⟩) := by decide +kernel
    intro tag htag join hjoin
    rw [hparse] at htag
    cases htag
    cases hjoin
    rfl
  have hinlines :
      (usersWithOrdersAnd [⟨"Totals", none, true, .nested ⟨"orders", largeTotals⟩⟩]).InlinesTo
        (usersWithOrdersAnd largeTotals) :=
    ⟨rfl, .tagged hhanded (.later (.here (.inr rfl)))⟩
  have hcompile : (⟨.mysql, 2⟩ : Compiler).compile
      (usersWithOrdersAnd [⟨"Totals", none, true, .nested ⟨"orders", largeTotals⟩⟩]) =
        .ok ⟨[], [], [],
          [⟨"LEFT JOIN \x60orders\x60 ON \x60orders\x60.\x60user_id\x60 = \x60users\x60.\x60id\x60",
            ⟨[⟨"\x60orders\x60.\x60status\x60 = ?", [.text "new"]⟩],
              [⟨"\x60orders\x60.\x60total\x60 >= ?", [.int 9]⟩], [], []⟩⟩]⟩ := by decide +kernel
  refine ⟨hinlines, compile_inlined _ hinlines ?_⟩
  intro maxDepth herror
  rw [hcompile] at herror
  cases herror

-- With one level less the group is too deep, and its fields by themselves are not.
example :
    (⟨.mysql, 1⟩ : Compiler).compile
        (usersWithOrdersAnd [⟨"Totals", none, true, .nested ⟨"orders", largeTotals⟩⟩]) =
          .error (.tooDeep 1) ∧
      (⟨.mysql, 1⟩ : Compiler).compile (usersWithOrdersAnd largeTotals) =
        (⟨.mysql, 2⟩ : Compiler).compile (usersWithOrdersAnd largeTotals) := by
  decide +kernel

end Compiler

end SqlFilter
