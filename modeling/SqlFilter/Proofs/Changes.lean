import SqlFilter.Proofs.Outcome

/-!
# Filters with a change in one list of fields

A filter can be changed in many places: in its own list of fields, or in that of a filter which
some field holds, at any depth.  `ChangedIn` says that one list of fields is another one with a
change in one such place, whatever the change is.  The fields around keep their names, tags and
zero flags.

From outside, a field that holds a filter looks the same before and after.  So what is visited
changes in one piece, where the change was made, and a relation that can be put between the same
visits on both sides holds of all visits as soon as it holds of the changed ones.

## Main results

* `ChangedIn`, `Filter.ChangesTo`: a list of fields, and a filter, with a change in one place.
* `Filter.ChangesTo.surfaces`: from the changed fields to everything that is visited.
* `Compiler.trace_root_surfaces`: what a walk does, from its visited fields from outside.
-/

namespace SqlFilter

/-! ## Changed filters -/

/-- One list of fields is another one with a change made in one place. -/
inductive ChangedIn (change : List Field → List Field → Prop) : (fields fields' : List Field) → Prop
  /-- The list itself is changed. -/
  | here {fields fields' : List Field} (hchange : change fields fields') :
      ChangedIn change fields fields'
  /-- The place is in a filter that one of the fields holds. -/
  | inside {before after fields fields' : List Field} {name own : String} {tag : Option String}
      {isZero : Bool} (within : ChangedIn change fields fields') :
      ChangedIn change (before ++ ⟨name, tag, isZero, .nested ⟨own, fields⟩⟩ :: after)
        (before ++ ⟨name, tag, isZero, .nested ⟨own, fields'⟩⟩ :: after)

/-- A filter with a change made in its fields or in those of a filter inside, at any depth. -/
structure Filter.ChangesTo (change : List Field → List Field → Prop) (f f' : Filter) : Prop where
  table : f'.table = f.table
  fields : ChangedIn change f.fields f'.fields

/-! ## What is visited -/

theorem Field.visitsAll_eq_flatMap (d : Dialect) (p : Place) (fields : List Field) :
    Field.visitsAll d p fields = fields.flatMap (Field.visits d p) := by
  induction fields with
  | nil => rfl
  | cons field rest ih => rw [visitsAll, ih, List.flatMap_cons]

/-- The visited fields of a list, from outside. -/
def Field.surfaces (d : Dialect) (p : Place) (fields : List Field) : List Visit :=
  (Field.visitsAll d p fields).map Visit.surface

theorem Field.surfaces_append (d : Dialect) (p : Place) (fields fields' : List Field) :
    Field.surfaces d p (fields ++ fields') =
      Field.surfaces d p fields ++ Field.surfaces d p fields' := by
  simp only [surfaces, visitsAll_eq_flatMap, List.flatMap_append, List.map_append]

/-- A walk goes into a field that holds a filter or not, whatever the filter is. -/
theorem Field.visits_holding (d : Dialect) (p : Place) (name : String) (tag : Option String)
    (isZero : Bool) :
    (∀ g : Filter, Field.visits d p ⟨name, tag, isZero, .nested g⟩ =
      [⟨p, ⟨name, tag, isZero, .nested g⟩⟩]) ∨
    ∃ within : Place, ∀ g : Filter, Field.visits d p ⟨name, tag, isZero, .nested g⟩ =
      ⟨p, ⟨name, tag, isZero, .nested g⟩⟩ :: g.visits d within := by
  cases tag with
  | none => exact .inr ⟨p.inside, fun g => rfl⟩
  | some text =>
      simp only [Field.visits]
      split
      · split
        · exact .inl fun g => rfl
        · split
          · exact .inr ⟨_, fun g => rfl⟩
          · exact .inl fun g => rfl
      · exact .inl fun g => rfl

section Related

variable {change : List Field → List Field → Prop} (R : List Visit → List Visit → Prop)
  (hrefl : ∀ vs, R vs vs)
  (happend : ∀ before {vs ws} after, R vs ws →
    R (before ++ (vs ++ after)) (before ++ (ws ++ after)))
  {d : Dialect}
  (hchange : ∀ p {fields fields'}, change fields fields' →
    R (Field.surfaces d p fields) (Field.surfaces d p fields'))
include hrefl happend hchange

/-- What is visited is related if what is visited in the changed place is. -/
theorem ChangedIn.surfaces {fields fields' : List Field} (h : ChangedIn change fields fields') :
    ∀ p, R (Field.surfaces d p fields) (Field.surfaces d p fields') := by
  induction h with
  | here h => exact fun p => hchange p h
  | @inside before after fields fields' name own tag isZero within ih =>
      intro p
      -- The field that holds the filter, and then its fields if the walk goes into it.
      have hholding : R (Field.surfaces d p [⟨name, tag, isZero, .nested ⟨own, fields⟩⟩])
          (Field.surfaces d p [⟨name, tag, isZero, .nested ⟨own, fields'⟩⟩]) := by
        simp only [Field.surfaces, Field.visitsAll, List.append_nil]
        rcases Field.visits_holding d p name tag isZero with houtside | ⟨q, hinside⟩
        · rw [houtside, houtside]
          exact hrefl _
        · rw [hinside, hinside]
          have hfields := happend [⟨p, ⟨name, tag, isZero, .nested ⟨"", []⟩⟩⟩] []
            (ih (q.inTable own))
          rw [List.append_nil, List.append_nil] at hfields
          exact hfields
      have hsplit : ∀ field : Field, Field.surfaces d p (before ++ field :: after) =
          Field.surfaces d p before ++
            (Field.surfaces d p [field] ++ Field.surfaces d p after) := by
        intro field
        rw [← List.singleton_append, Field.surfaces_append, Field.surfaces_append]
      rw [hsplit, hsplit]
      exact happend _ _ hholding

/-- What a filter visits is related if what is visited in the changed place is. -/
theorem Filter.ChangesTo.surfaces {f f' : Filter} (h : f.ChangesTo change f') (p : Place) :
    R ((f.visits d p).map Visit.surface) ((f'.visits d p).map Visit.surface) := by
  rcases f with ⟨table, fields⟩
  rcases f' with ⟨table', fields'⟩
  obtain rfl : table' = table := h.table
  exact h.fields.surfaces R hrefl happend hchange (p.inTable table')

end Related

/-! ## What a walk does, from outside -/

theorem Compiler.trace_root_surfaces (c : Compiler) (f : Filter) (parent : String) :
    c.trace 0 parent f = Trace.inOrder
      (((f.visits c.dialect (.root parent)).map Visit.surface).map (Visit.trace c)) := by
  rw [Visit.map_trace_surface, trace_root]

end SqlFilter
