import SqlFilter.Proofs.Scopes
import SqlFilter.Proofs.TagText
import SqlFilter.Proofs.Trace

/-!
# The fields that a walk visits

A walk goes through fields in order and descends in place: into a filter without a tag, and into
the filter of a join that is not zero.  `Filter.visits` lists the fields in that order, each with
the place where it is met, as if nothing could go wrong.  What one visited field does by itself
is its `Compiler.contribution`.

The trace of a filter is then nothing but the contributions of its visited fields one after the
other, up to the first one that fails.  What is to be shown of all registrations of a walk can so
be shown field by field, and no induction over filters is needed for it again.

## Main results

* `Compiler.trace_eq_visits`: the trace of a filter, from its visited fields.
* `Compiler.exists_visit_of_clause`, `Compiler.exists_visit_of_scope`: every clause and every join
  scope of a compiled condition comes from a visited field.
-/

namespace SqlFilter

/-! ## Traces one after the other, and below a path -/

namespace Trace

/-- Traces in order, up to the first that fails. -/
def inOrder : List Trace → Trace
  | [] => done
  | t :: rest => t.andThen (inOrder rest)

theorem inOrder_append (ts us : List Trace) :
    inOrder (ts ++ us) = (inOrder ts).andThen (inOrder us) := by
  induction ts with
  | nil => rfl
  | cons t rest ih => rw [List.cons_append, inOrder, inOrder, ih, andThen_assoc]

/-- A trace in the scope at the end of a path of joins. -/
def below : List String → Trace → Trace
  | [], t => t
  | on :: path, t => (below path t).under on

@[simp] theorem below_done (path : List String) : below path done = done := by
  induction path with
  | nil => rfl
  | cons on path ih => rw [below, ih, under_done]

@[simp] theorem below_fail (path : List String) (e : CompileError) :
    below path (fail e) = fail e := by
  induction path with
  | nil => rfl
  | cons on path ih => rw [below, ih, under_fail]

theorem below_andThen (path : List String) (a b : Trace) :
    below path (a.andThen b) = (below path a).andThen (below path b) := by
  induction path with
  | nil => rfl
  | cons on path ih => rw [below, ih, under_andThen, below, below]

theorem below_append (path path' : List String) (t : Trace) :
    below (path ++ path') t = below path (below path' t) := by
  induction path with
  | nil => rfl
  | cons on path ih => rw [List.cons_append, below, ih, below]

/-- Opening a join at the end of a path: the scope is registered, and the rest is below it. -/
theorem below_opening (path : List String) (on : String) (t : Trace) :
    below path (opening on t) =
      (below path ((step .scope).under on)).andThen (below (path ++ [on]) t) := by
  rw [opening, under_andThen, below_andThen, below_append]
  rfl

theorem steps_below (path : List String) (t : Trace) :
    (below path t).steps = t.steps.map fun r => ⟨path ++ r.path, r.clause⟩ := by
  induction path with
  | nil => simp [below]
  | cons on path ih => simp [below, under, ih, Registration.under]

/-- A registration of one of the traces, if not of all of them because one before it failed. -/
theorem exists_mem_of_mem_steps_inOrder {r : Registration} {ts : List Trace}
    (h : r ∈ (inOrder ts).steps) : ∃ t ∈ ts, r ∈ t.steps := by
  induction ts with
  | nil => simp [inOrder, done] at h
  | cons t rest ih =>
      rcases t with ⟨steps, _ | e⟩
      · rw [inOrder, andThen, List.mem_append] at h
        rcases h with h | h
        · exact ⟨_, List.mem_cons_self, h⟩
        · obtain ⟨u, hu, hr⟩ := ih h
          exact ⟨u, List.mem_cons_of_mem _ hu, hr⟩
      · exact ⟨_, List.mem_cons_self, h⟩

end Trace

/-! ## Visited fields -/

/-- Where a walk is. -/
structure Place where
  /-- The joins that lead to the scope. -/
  path : List String
  /-- How many filters are around. -/
  depth : Nat
  /-- The table in force. -/
  table : String

/-- The table in force inside a filter. -/
def Place.inTable (p : Place) (table : String) : Place :=
  ⟨p.path, p.depth, if table = "" then p.table else table⟩

/-- Inside a filter that stands in a field without a tag. -/
def Place.inside (p : Place) : Place := ⟨p.path, p.depth + 1, p.table⟩

/-- Inside the filter of a join. -/
def Place.joined (p : Place) (on table : String) : Place := ⟨p.path ++ [on], p.depth + 1, table⟩

/-- A field and the place where a walk meets it. -/
structure Visit where
  place : Place
  field : Field

mutual
/-- The fields that a walk of the filter visits, in order. -/
def Filter.visits (d : Dialect) (p : Place) : Filter → List Visit
  | ⟨table, fields⟩ => Field.visitsAll d (p.inTable table) fields

/-- The visited ones of a list of fields and of the filters in them. -/
def Field.visitsAll (d : Dialect) (p : Place) : List Field → List Visit
  | [] => []
  | field :: rest => field.visits d p ++ Field.visitsAll d p rest

/-- The field itself, and what is visited inside it. -/
def Field.visits (d : Dialect) (p : Place) : Field → List Visit
  | ⟨name, none, isZero, value⟩ => ⟨p, ⟨name, none, isZero, value⟩⟩ :: value.visits d p.inside
  | ⟨name, some text, isZero, value⟩ =>
    ⟨p, ⟨name, some text, isZero, value⟩⟩ ::
      match Tag.parse text with
      | .ok (some tag) =>
        if isZero then []
        else
          match tag.join with
          | some join =>
            value.visits d
              (p.joined (d.joinClause join (Compiler.target tag p.table name)) join.table)
          | none => []
      | _ => []

/-- What is visited inside a value, at the place inside it. -/
def FieldValue.visits (d : Dialect) (p : Place) : FieldValue → List Visit
  | .nested inner => inner.visits d p
  | _ => []
end

/-! ## What one field does by itself -/

namespace Compiler

/-- Entering a filter at a depth. -/
def enter (c : Compiler) (depth : Nat) : Trace :=
  if c.maxDepth < depth then .fail (.tooDeep c.maxDepth) else .done

/-- What a field does apart from the fields inside it, which it only enters. -/
def contribution (c : Compiler) (p : Place) : Field → Trace
  | ⟨name, none, _, value⟩ =>
    match value with
    | .nested _ => c.enter p.inside.depth
    | .null => .done
    | _ => .fail (.notAFilter p.table name)
  | ⟨name, some text, isZero, value⟩ =>
    match Tag.parse text with
    | .error e => .fail (.tag name e)
    | .ok none => .done
    | .ok (some tag) =>
      if isZero then .done
      else
        .ofEmission tag.group (fun on joined => c.enter (p.joined on joined).depth)
          (emit c.dialect tag (target tag p.table name) name value)

end Compiler

/-- What a visited field does, seen from where the walk started. -/
def Visit.trace (c : Compiler) (v : Visit) : Trace :=
  .below v.place.path (c.contribution v.place v.field)

/-! ## What a tag makes of a field -/

/-- A tag that was read has a join target exactly if it says `join`. -/
theorem Tag.operator_eq_join_iff_of_parse {text : String} {tag : Tag}
    (h : Tag.parse text = .ok (some tag)) :
    tag.operator = .join ↔ ∃ join, tag.join = some join :=
  (Tag.wellFormed_of_parse h).join_iff

/-- Only a join tag on a filter emits a join. -/
theorem emit_eq_join {d : Dialect} {tag : Tag} {target : Target} {name : String}
    {value : FieldValue} {on joined : String}
    (h : emit d tag target name value = .ok (.join on joined)) :
    ∃ join, tag.join = some join ∧ value.kind = .nested ∧
      on = d.joinClause join target ∧ joined = join.table := by
  unfold emit at h
  split at h
  · split at h
    · split at h <;> cases h
    · cases h
  · split at h
    · cases h
    · rename_i join hjoin
      split at h
      · cases h
        exact ⟨join, hjoin, rfl, rfl, rfl⟩
      · cases h
  · split at h <;> cases h

/-- A join tag emits a join, if it emits anything. -/
theorem emit_of_operator_eq_join {d : Dialect} {tag : Tag} {target : Target} {name : String}
    {value : FieldValue} {emission : Emission} (hop : tag.operator = .join)
    (h : emit d tag target name value = .ok emission) : ∃ on joined, emission = .join on joined := by
  unfold emit at h
  rw [hop] at h
  simp only at h
  split at h
  · cases h
  · split at h
    · cases h
      exact ⟨_, _, rfl⟩
    · cases h

/-- An operator that neither sorts nor joins contributes its predicate. -/
theorem emit_of_predicate {d : Dialect} {tag : Tag} {target : Target} {name : String}
    {value : FieldValue} (horder : tag.operator ≠ .order) (hjoin : tag.operator ≠ .join) :
    emit d tag target name value =
      match predicate? d target tag.operator value with
      | some p => .ok (.predicate p)
      | none => .error (.unsupportedValue name tag.operator value.kind) := by
  unfold emit
  split
  · rename_i hop
    exact absurd hop horder
  · rename_i hop
    exact absurd hop hjoin
  · rfl

/-- A tag whose field emits something else than a join has no join target. -/
theorem join_eq_none_of_emit {text : String} {d : Dialect} {tag : Tag} {target : Target}
    {name : String} {value : FieldValue} {emission : Emission}
    (hparse : Tag.parse text = .ok (some tag))
    (hemit : emit d tag target name value = .ok emission)
    (hother : ∀ on joined, emission ≠ .join on joined) : tag.join = none := by
  cases hjoin : tag.join with
  | none => rfl
  | some join =>
      have hop : tag.operator = .join :=
        (Tag.operator_eq_join_iff_of_parse hparse).mpr ⟨join, hjoin⟩
      obtain ⟨on, joined, rfl⟩ := emit_of_operator_eq_join hop hemit
      exact absurd rfl (hother on joined)

/-! ## The trace of a filter -/

namespace Compiler

theorem enter_below (c : Compiler) (path : List String) (depth : Nat) :
    Trace.below path (c.enter depth) = c.enter depth := by
  unfold enter
  split
  · exact Trace.below_fail path _
  · exact Trace.below_done path

/-- Visits are carried out in the order in which they are listed. -/
theorem inOrder_append_visits (c : Compiler) (vs ws : List Visit) :
    Trace.inOrder ((vs ++ ws).map (Visit.trace c)) =
      (Trace.inOrder (vs.map (Visit.trace c))).andThen
        (Trace.inOrder (ws.map (Visit.trace c))) := by
  rw [List.map_append, Trace.inOrder_append]

mutual
/-- **The trace of a filter consists of what its visited fields do**, one after the other. -/
theorem trace_eq_visits (c : Compiler) (p : Place) : ∀ f : Filter,
    Trace.below p.path (c.trace p.depth p.table f) =
      (c.enter p.depth).andThen (Trace.inOrder ((f.visits c.dialect p).map (Visit.trace c)))
  | ⟨table, fields⟩ => by
      have hfields := traceFields_eq_visits c (p.inTable table) fields
      unfold trace enter Filter.visits
      split
      · exact Trace.below_fail p.path _
      · exact hfields

theorem traceFields_eq_visits (c : Compiler) (p : Place) : ∀ fields : List Field,
    Trace.below p.path (c.traceFields p.depth p.table fields) =
      Trace.inOrder ((Field.visitsAll c.dialect p fields).map (Visit.trace c))
  | [] => Trace.below_done p.path
  | field :: rest => by
      rw [traceFields, Field.visitsAll, Trace.below_andThen, traceField_eq_visits c p field,
        traceFields_eq_visits c p rest, inOrder_append_visits]

theorem traceField_eq_visits (c : Compiler) (p : Place) : ∀ field : Field,
    Trace.below p.path (c.traceField p.depth p.table field) =
      Trace.inOrder ((field.visits c.dialect p).map (Visit.trace c))
  | ⟨name, none, isZero, value⟩ => by
      have hvalue := traceValue_eq_visits c p.inside value
      rw [Field.visits, List.map_cons, Trace.inOrder, Visit.trace, traceField]
      cases value with
      | nested inner =>
          show Trace.below p.path (c.trace p.inside.depth p.inside.table inner) =
            (Trace.below p.path (c.enter p.inside.depth)).andThen _
          rw [enter_below]
          exact hvalue inner rfl
      | null => simp [traceUntagged, contribution, FieldValue.visits, Trace.inOrder]
      | scalar v => simp [traceUntagged, contribution]
      | list vs => simp [traceUntagged, contribution]
  | ⟨name, some text, isZero, value⟩ => by
      have hvalue := fun on joined => traceValue_eq_visits c (p.joined on joined) value
      unfold Field.visits traceField
      rw [List.map_cons, Trace.inOrder, Visit.trace, contribution]
      cases hparse : Tag.parse text with
      | error e => simp
      | ok parsed =>
          cases parsed with
          | none => simp [Trace.inOrder]
          | some tag =>
              cases isZero with
              | true => simp [Trace.inOrder]
              | false =>
                  cases hemit : emit c.dialect tag (target tag p.table name) name value with
                  | error e => simp [hemit, Trace.ofEmission]
                  | ok emission =>
                      cases emission with
                      | join on joined =>
                          obtain ⟨join, hjoin, hkind, rfl, rfl⟩ := emit_eq_join hemit
                          cases value with
                          | nested inner =>
                              have hinner := hvalue (c.dialect.joinClause join
                                (target tag p.table name)) join.table inner rfl
                              simp only [hemit, Trace.ofEmission, hjoin, Bool.false_eq_true, ↓reduceIte]
                              rw [Trace.below_opening, Trace.below_opening, Trace.andThen_assoc,
                                enter_below]
                              exact congrArg _ hinner
                          | null => cases hkind
                          | scalar v => cases hkind
                          | list vs => cases hkind
                      | predicate q =>
                          have hjoin := join_eq_none_of_emit hparse hemit (by simp)
                          simp [hemit, Trace.ofEmission, hjoin, Trace.inOrder]
                      | order term =>
                          have hjoin := join_eq_none_of_emit hparse hemit (by simp)
                          simp [hemit, Trace.ofEmission, hjoin, Trace.inOrder]
                      | nothing =>
                          have hjoin := join_eq_none_of_emit hparse hemit (by simp)
                          simp [hemit, Trace.ofEmission, hjoin, Trace.inOrder]

theorem traceValue_eq_visits (c : Compiler) (p : Place) : ∀ (value : FieldValue) (inner : Filter),
    value = .nested inner →
      Trace.below p.path (c.trace p.depth p.table inner) =
        (c.enter p.depth).andThen
          (Trace.inOrder ((value.visits c.dialect p).map (Visit.trace c)))
  | .nested inner, _, rfl => trace_eq_visits c p inner
end

end Compiler

/-! ## Where the clauses of a compiled condition come from -/

/-- The place outside a filter about a table. -/
def Place.root (table : String) : Place := ⟨[], 0, table⟩

/-- What an emission registers, seen from the scope of its field. -/
def Emission.registration? (group : Group) : Emission → Option Registration
  | .predicate p => some ⟨[], .predicate group p⟩
  | .order term => some ⟨[], .order term⟩
  | .join on _ => some ⟨[on], .scope⟩
  | .nothing => none

/-- The field's tag says what the tag says. -/
def Field.HasTag (f : Field) (tag : Tag) : Prop :=
  ∃ text, f.tag = some text ∧ Tag.parse text = .ok (some tag)

theorem Field.HasTag.parse_eq {f : Field} {tag : Tag} (h : f.HasTag tag) {text : String}
    (htext : f.tag = some text) : Tag.parse text = .ok (some tag) := by
  obtain ⟨text', htext', hparse⟩ := h
  rw [htext] at htext'
  cases htext'
  exact hparse

/-- The visited field is not zero, and under its tag it contributes the emission. -/
structure Visit.Emits (d : Dialect) (v : Visit) (tag : Tag) (emission : Emission) : Prop where
  tagged : v.field.HasTag tag
  nonzero : v.field.isZero = false
  emitted : emit d tag (Compiler.target tag v.place.table v.field.name) v.field.name
    v.field.value = .ok emission

namespace Compiler

theorem enter_steps (c : Compiler) (depth : Nat) : (c.enter depth).steps = [] := by
  unfold enter
  split <;> rfl

/-- What a field registers by itself is what it emits. -/
theorem exists_emits_of_mem_steps {c : Compiler} {v : Visit} {r : Registration}
    (h : r ∈ (c.contribution v.place v.field).steps) :
    ∃ tag emission, v.Emits c.dialect tag emission ∧ emission.registration? tag.group = some r := by
  rcases v with ⟨p, name, _ | text, isZero, value⟩
  · cases value with
    | nested inner =>
        rw [contribution, enter_steps] at h
        cases h
    | null => cases h
    | scalar v => cases h
    | list vs => cases h
  · cases hparse : Tag.parse text with
    | error e =>
        simp [contribution, hparse, Trace.fail] at h
    | ok parsed =>
        cases parsed with
        | none => simp [contribution, hparse, Trace.done] at h
        | some tag =>
            cases isZero with
            | true => simp [contribution, hparse, Trace.done] at h
            | false =>
                cases hemit : emit c.dialect tag (target tag p.table name) name value with
                | error e => simp [contribution, hparse, hemit, Trace.ofEmission, Trace.fail] at h
                | ok emission =>
                    refine ⟨tag, emission, ⟨⟨text, rfl, hparse⟩, rfl, hemit⟩, ?_⟩
                    cases emission with
                    | predicate q =>
                        simp [contribution, hparse, hemit, Trace.ofEmission, Trace.step] at h
                        rw [h]
                        rfl
                    | order term =>
                        simp [contribution, hparse, hemit, Trace.ofEmission, Trace.step] at h
                        rw [h]
                        rfl
                    | nothing => simp [contribution, hparse, hemit, Trace.ofEmission, Trace.done] at h
                    | join on joined =>
                        simp [contribution, hparse, hemit, Trace.ofEmission, Trace.opening, Trace.step,
                          Trace.andThen, Trace.under, Registration.under, enter_steps] at h
                        rw [h]
                        rfl

/-- Every registration of a walk is what some visited field emits, in the scope of that field. -/
theorem exists_visit_of_mem_steps {c : Compiler} {p : Place} {f : Filter} {r : Registration}
    (h : r ∈ (Trace.below p.path (c.trace p.depth p.table f)).steps) :
    ∃ v ∈ f.visits c.dialect p, ∃ tag emission inScope,
      v.Emits c.dialect tag emission ∧ emission.registration? tag.group = some inScope ∧
        r = ⟨v.place.path ++ inScope.path, inScope.clause⟩ := by
  rw [trace_eq_visits] at h
  have hvisits : r ∈ (Trace.inOrder ((f.visits c.dialect p).map (Visit.trace c))).steps := by
    unfold enter at h
    split at h
    · cases h
    · exact h
  obtain ⟨t, ht, hr⟩ := Trace.exists_mem_of_mem_steps_inOrder hvisits
  obtain ⟨v, hv, rfl⟩ := List.mem_map.mp ht
  rw [Visit.trace, Trace.steps_below, List.mem_map] at hr
  obtain ⟨inScope, hmem, rfl⟩ := hr
  obtain ⟨tag, emission, hemits, hreg⟩ := exists_emits_of_mem_steps hmem
  exact ⟨v, hv, tag, emission, inScope, hemits, hreg, rfl⟩

/-- Every clause of a compiled condition is what some visited field emits, and it stands in the
scope of that field. -/
theorem exists_visit_of_clause {c : Compiler} {f : Filter} {condition t : Condition}
    {path : List String} {clause : Clause} (hcompile : c.compile f = .ok condition)
    (hscope : condition.HasScope path t) (hclause : clause ∈ t.clauses) :
    ∃ v ∈ f.visits c.dialect (.root f.table), v.place.path = path ∧ ∃ tag emission,
      v.Emits c.dialect tag emission ∧
        emission.registration? tag.group = some ⟨[], clause⟩ := by
  obtain ⟨-, rfl⟩ := (c.compile_eq_ok_iff f condition).mp hcompile
  have hmem := Condition.mem_of_mem_clauses hscope hclause
  obtain ⟨v, hv, tag, emission, inScope, hemits, hreg, heq⟩ :=
    exists_visit_of_mem_steps (p := .root f.table) hmem
  cases heq
  cases emission with
  | predicate q =>
      cases hreg
      exact ⟨v, hv, by simp, tag, _, hemits, rfl⟩
  | order term =>
      cases hreg
      exact ⟨v, hv, by simp, tag, _, hemits, rfl⟩
  | nothing => cases hreg
  | join on joined =>
      cases hreg
      exact absurd hclause (Condition.scope_notMem_clauses t)

/-- Every scope of a compiled condition is on the way to the scope of a visited field, or to one
that a visited field opens. -/
theorem exists_visit_of_scope {c : Compiler} {f : Filter} {condition t : Condition}
    {path : List String} (hcompile : c.compile f = .ok condition)
    (hscope : condition.HasScope path t) :
    path = [] ∨ ∃ v ∈ f.visits c.dialect (.root f.table), path <+: v.place.path ∨
      ∃ tag on joined, v.Emits c.dialect tag (.join on joined) ∧ path <+: v.place.path ++ [on] := by
  obtain ⟨-, rfl⟩ := (c.compile_eq_ok_iff f condition).mp hcompile
  rcases Condition.exists_lead_of_hasScope hscope with hroot | ⟨r, hr, hlead⟩
  · exact .inl hroot
  · obtain ⟨v, hv, tag, emission, inScope, hemits, hreg, rfl⟩ :=
      exists_visit_of_mem_steps (p := .root f.table) hr
    refine .inr ⟨v, hv, ?_⟩
    cases emission with
    | predicate q =>
        cases hreg
        exact .inl (by simpa using hlead)
    | order term =>
        cases hreg
        exact .inl (by simpa using hlead)
    | nothing => cases hreg
    | join on joined =>
        cases hreg
        exact .inr ⟨tag, on, joined, hemits, hlead⟩

end Compiler

end SqlFilter
