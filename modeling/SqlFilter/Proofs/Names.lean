import SqlFilter.Proofs.Route

/-!
# The names in a filter

Tables, columns and the names of fields are written into statements as they are.  So what is
known of every name in a filter is known of every name that a walk can write.  `Filter.Named`
says it of the filter, whatever the property is, `Filter.Named.stops` of the stops of a walk, and
`Filter.Named.visits_root` of the fields that it visits and of the places where it meets them.

A field's name counts only where it is used as a column, that is, if the field is not zero, its
tag says no column, and it is not a join.

## Main results

* `Filter.Named`, which is decidable, `Route.Named` and `Place.Named`.
* `Filter.Named.stops`, `Filter.Named.visits_root`: stops and visited fields are named so, too.
* `Field.OwnNamed.target_column`: the column of a field that is no join.
-/

namespace SqlFilter

/-! ## Names of a tag, a field and a filter -/

/-- Every name in the join target is as required. -/
structure JoinTarget.Named (ok : String → Prop) (join : JoinTarget) : Prop where
  table : ok join.table
  joined : ok join.joined
  owning : ok join.owning

/-- Every name in the tag is as required. -/
structure Tag.Named (ok : String → Prop) (tag : Tag) : Prop where
  table : ∀ table, tag.table = some table → ok table
  column : ∀ column, tag.column = some column → ok column
  join : ∀ join, tag.join = some join → join.Named ok

/-- Every name that the field itself may write is as required. -/
structure Field.OwnNamed (ok : String → Prop) (f : Field) : Prop where
  tag : ∀ tag, f.HasTag tag → tag.Named ok
  name : ∀ tag, f.HasTag tag → f.isZero = false → tag.operator ≠ .join → tag.column = none →
    ok f.name

mutual
/-- Every name in the filter is as required. -/
def Filter.Named (ok : String → Prop) : Filter → Prop
  | ⟨table, fields⟩ => ok table ∧ Field.AllNamed ok fields

/-- Every name in the fields is as required. -/
def Field.AllNamed (ok : String → Prop) : List Field → Prop
  | [] => True
  | field :: rest => field.Named ok ∧ Field.AllNamed ok rest

/-- Every name in the field and inside it is as required. -/
def Field.Named (ok : String → Prop) : Field → Prop
  | ⟨name, tag, isZero, value⟩ => Field.OwnNamed ok ⟨name, tag, isZero, value⟩ ∧ value.Named ok

/-- Every name in the value is as required. -/
def FieldValue.Named (ok : String → Prop) : FieldValue → Prop
  | .nested inner => inner.Named ok
  | _ => True
end

/-! ## Named filters are decidable -/

section Decide

variable {ok : String → Prop} [DecidablePred ok]

instance (join : JoinTarget) : Decidable (join.Named ok) :=
  decidable_of_iff (ok join.table ∧ ok join.joined ∧ ok join.owning)
    ⟨fun h => ⟨h.1, h.2.1, h.2.2⟩, fun h => ⟨h.table, h.joined, h.owning⟩⟩

instance (tag : Tag) : Decidable (tag.Named ok) :=
  decidable_of_iff ((∀ table ∈ tag.table, ok table) ∧ (∀ column ∈ tag.column, ok column) ∧
      ∀ join ∈ tag.join, join.Named ok)
    ⟨fun h => ⟨h.1, h.2.1, h.2.2⟩, fun h => ⟨h.table, h.column, h.join⟩⟩

/-- The tag of a field, if it has one and that says something. -/
def Field.readTag (f : Field) : Option Tag :=
  match f.tag.map Tag.parse with
  | some (.ok tag) => tag
  | _ => none

theorem Field.readTag_eq_some_iff {f : Field} {tag : Tag} :
    f.readTag = some tag ↔ f.HasTag tag := by
  rcases f with ⟨name, _ | text, isZero, value⟩
  · simp [readTag, HasTag]
  · cases h : Tag.parse text with
    | error e => simp [readTag, HasTag, h]
    | ok parsed => simp [readTag, HasTag, h]

instance (f : Field) : Decidable (f.OwnNamed ok) :=
  decidable_of_iff (∀ tag ∈ f.readTag, tag.Named ok ∧
      (f.isZero = false → tag.operator ≠ .join → tag.column = none → ok f.name))
    ⟨fun h => ⟨fun tag htag => (h tag (Field.readTag_eq_some_iff.mpr htag)).1,
        fun tag htag => (h tag (Field.readTag_eq_some_iff.mpr htag)).2⟩,
      fun h tag htag => ⟨h.tag tag (Field.readTag_eq_some_iff.mp htag),
        h.name tag (Field.readTag_eq_some_iff.mp htag)⟩⟩

mutual
/-- Whether every name in the filter is as required. -/
def Filter.decideNamed : (f : Filter) → Decidable (f.Named ok)
  | ⟨table, fields⟩ =>
    have : Decidable (Field.AllNamed ok fields) := Field.decideAllNamed fields
    inferInstanceAs (Decidable (ok table ∧ Field.AllNamed ok fields))

/-- Whether every name in the fields is as required. -/
def Field.decideAllNamed : (fields : List Field) → Decidable (Field.AllNamed ok fields)
  | [] => .isTrue trivial
  | field :: rest =>
    have : Decidable (field.Named ok) := Field.decideNamed field
    have : Decidable (Field.AllNamed ok rest) := Field.decideAllNamed rest
    inferInstanceAs (Decidable (field.Named ok ∧ Field.AllNamed ok rest))

/-- Whether every name in the field and inside it is as required. -/
def Field.decideNamed : (f : Field) → Decidable (f.Named ok)
  | ⟨name, tag, isZero, value⟩ =>
    have : Decidable (value.Named ok) := FieldValue.decideNamed value
    inferInstanceAs (Decidable (Field.OwnNamed ok ⟨name, tag, isZero, value⟩ ∧ value.Named ok))

/-- Whether every name in the value is as required. -/
def FieldValue.decideNamed : (value : FieldValue) → Decidable (value.Named ok)
  | .nested inner => Filter.decideNamed inner
  | .null => .isTrue trivial
  | .scalar _ => .isTrue trivial
  | .list _ => .isTrue trivial
end

instance (f : Filter) : Decidable (f.Named ok) := f.decideNamed

end Decide

/-! ## Weaker requirements -/

section Mono

variable {ok ok' : String → Prop}

theorem JoinTarget.Named.mono (hweaker : ∀ name, ok name → ok' name) {join : JoinTarget}
    (h : join.Named ok) : join.Named ok' :=
  ⟨hweaker _ h.table, hweaker _ h.joined, hweaker _ h.owning⟩

theorem Tag.Named.mono (hweaker : ∀ name, ok name → ok' name) {tag : Tag}
    (h : tag.Named ok) : tag.Named ok' :=
  ⟨fun table htable => hweaker _ (h.table table htable),
    fun column hcolumn => hweaker _ (h.column column hcolumn),
    fun join hjoin => (h.join join hjoin).mono hweaker⟩

theorem Field.OwnNamed.mono (hweaker : ∀ name, ok name → ok' name) {f : Field}
    (h : f.OwnNamed ok) : f.OwnNamed ok' :=
  ⟨fun tag htag => (h.tag tag htag).mono hweaker,
    fun tag htag hzero hop hcolumn => hweaker _ (h.name tag htag hzero hop hcolumn)⟩

mutual
/-- What holds of every name in a filter can be weakened. -/
theorem Filter.Named.mono (hweaker : ∀ name, ok name → ok' name) : ∀ f : Filter,
    f.Named ok → f.Named ok'
  | ⟨table, fields⟩, h => by
      rw [Filter.Named] at h ⊢
      exact ⟨hweaker table h.1, Field.AllNamed.mono hweaker fields h.2⟩

theorem Field.AllNamed.mono (hweaker : ∀ name, ok name → ok' name) : ∀ fields : List Field,
    Field.AllNamed ok fields → Field.AllNamed ok' fields
  | [], _ => trivial
  | field :: rest, h => by
      rw [Field.AllNamed] at h ⊢
      exact ⟨Field.Named.mono hweaker field h.1, Field.AllNamed.mono hweaker rest h.2⟩

theorem Field.Named.mono (hweaker : ∀ name, ok name → ok' name) : ∀ field : Field,
    field.Named ok → field.Named ok'
  | ⟨_, _, _, value⟩, h => by
      rw [Field.Named] at h ⊢
      exact ⟨h.1.mono hweaker, FieldValue.Named.mono hweaker value h.2⟩

theorem FieldValue.Named.mono (hweaker : ∀ name, ok name → ok' name) : ∀ value : FieldValue,
    value.Named ok → value.Named ok'
  | .nested inner, h => Filter.Named.mono hweaker inner h
  | .null, _ => trivial
  | .scalar _, _ => trivial
  | .list _, _ => trivial
end

end Mono

/-! ## Names on the way -/

/-- The table in force is as required, and so is every name in the joins around. -/
structure Route.Named (ok : String → Prop) (r : Route) : Prop where
  table : ok r.table
  hops : ∀ h ∈ r.hops, h.join.Named ok ∧ ok h.target.table

/-- The table in force is as required, and so is every name in the joins around. -/
structure Place.Named (ok : String → Prop) (d : Dialect) (p : Place) : Prop where
  table : ok p.table
  path : ∀ on ∈ p.path, ∃ (join : JoinTarget) (target : Target),
    on = d.joinClause join target ∧ join.Named ok ∧ ok target.table

/-! ## Stops and visited fields -/

section Visits

variable {ok : String → Prop} {d : Dialect}

theorem Route.Named.place {r : Route} (h : r.Named ok) (d : Dialect) :
    (r.place d).Named ok d := by
  refine ⟨h.table, ?_⟩
  intro on hon
  obtain ⟨hop, hmem, rfl⟩ := List.mem_map.mp hon
  exact ⟨hop.join, hop.target, rfl, h.hops hop hmem⟩

theorem Route.named_root {table : String} (h : ok table) : (Route.root table).Named ok :=
  ⟨h, by intro hop hmem; cases hmem⟩

theorem Route.Named.inTable {r : Route} (h : r.Named ok) {table : String} (htable : ok table) :
    (r.inTable table).Named ok := by
  refine ⟨?_, h.hops⟩
  show ok (if table = "" then r.table else table)
  split
  · exact h.table
  · exact htable

theorem Route.Named.inside {r : Route} (h : r.Named ok) : r.inside.Named ok := ⟨h.table, h.hops⟩

/-- The table of a field: its tag's, or the one in force. -/
theorem Tag.Named.target_table {tag : Tag} (htag : tag.Named ok) {table : String}
    (htable : ok table) (name : String) : ok (Compiler.target tag table name).table := by
  unfold Compiler.target
  cases h : tag.table with
  | none => exact htable
  | some own => exact htag.table own h

theorem Route.Named.joined {r : Route} (h : r.Named ok) {tag : Tag} (htag : tag.Named ok)
    {join : JoinTarget} (hjoin : tag.join = some join) (name : String) :
    (r.joined ⟨join, Compiler.target tag r.table name⟩).Named ok := by
  have hnamed := htag.join join hjoin
  refine ⟨hnamed.table, ?_⟩
  intro hop hmem
  rcases List.mem_append.mp hmem with hmem | hmem
  · exact h.hops hop hmem
  · rw [List.mem_singleton.mp hmem]
    exact ⟨hnamed, htag.target_table h.table name⟩

mutual
/-- The field of every stop is named as required, and so is the route to it. -/
theorem Filter.Named.stops {s : Stop} : ∀ (f : Filter) (r : Route), r.Named ok →
    f.Named ok → s ∈ f.stops r → s.route.Named ok ∧ s.field.OwnNamed ok
  | ⟨table, fields⟩, r, hr, hf, hs => by
      rw [Filter.Named] at hf
      rw [Filter.stops] at hs
      exact Field.AllNamed.stops fields (r.inTable table) (hr.inTable hf.1) hf.2 hs

theorem Field.AllNamed.stops {s : Stop} : ∀ (fields : List Field) (r : Route), r.Named ok →
    Field.AllNamed ok fields → s ∈ Field.stopsAll r fields →
      s.route.Named ok ∧ s.field.OwnNamed ok
  | [], r, hr, hfields, hs => by
      rw [Field.stopsAll] at hs
      cases hs
  | field :: rest, r, hr, hfields, hs => by
      rw [Field.AllNamed] at hfields
      rw [Field.stopsAll, List.mem_append] at hs
      rcases hs with hs | hs
      · exact Field.Named.stops field r hr hfields.1 hs
      · exact Field.AllNamed.stops rest r hr hfields.2 hs

theorem Field.Named.stops {s : Stop} : ∀ (field : Field) (r : Route), r.Named ok →
    field.Named ok → s ∈ field.stops r → s.route.Named ok ∧ s.field.OwnNamed ok
  | ⟨name, none, isZero, value⟩, r, hr, hfield, hs => by
      rw [Field.Named] at hfield
      rw [Field.stops, List.mem_cons] at hs
      rcases hs with rfl | hs
      · exact ⟨hr, hfield.1⟩
      · exact FieldValue.Named.stops value r.inside hr.inside hfield.2 hs
  | ⟨name, some text, isZero, value⟩, r, hr, hfield, hs => by
      rw [Field.Named] at hfield
      unfold Field.stops at hs
      rw [List.mem_cons] at hs
      rcases hs with rfl | hs
      · exact ⟨hr, hfield.1⟩
      · split at hs
        · rename_i tag hparse
          split at hs
          · cases hs
          · split at hs
            · rename_i join hjoin
              have htag := hfield.1.tag tag ⟨text, rfl, hparse⟩
              exact FieldValue.Named.stops value _ (hr.joined htag hjoin name) hfield.2 hs
            · cases hs
        · cases hs

theorem FieldValue.Named.stops {s : Stop} : ∀ (value : FieldValue) (r : Route), r.Named ok →
    value.Named ok → s ∈ value.stops r → s.route.Named ok ∧ s.field.OwnNamed ok
  | .nested inner, r, hr, hvalue, hs => Filter.Named.stops inner r hr hvalue hs
  | .null, _, _, _, hs => by cases hs
  | .scalar _, _, _, _, hs => by cases hs
  | .list _, _, _, _, hs => by cases hs
end

theorem Filter.Named.table {f : Filter} (h : f.Named ok) : ok f.table := by
  rcases f with ⟨table, fields⟩
  rw [Filter.Named] at h
  exact h.1

/-- The stops of a filter that stands in no other. -/
theorem Filter.Named.stops_root {f : Filter} (h : f.Named ok) {s : Stop}
    (hs : s ∈ f.stops (.root f.table)) : s.route.Named ok ∧ s.field.OwnNamed ok :=
  Filter.Named.stops f _ (Route.named_root h.table) h hs

/-- Every visited field is named as required, and so is the place where it is met. -/
theorem Filter.Named.visits_root {f : Filter} (h : f.Named ok) {v : Visit}
    (hv : v ∈ f.visits d (.root f.table)) : v.place.Named ok d ∧ v.field.OwnNamed ok := by
  rw [Filter.visits_root] at hv
  obtain ⟨s, hs, rfl⟩ := List.mem_map.mp hv
  obtain ⟨hroute, hfield⟩ := h.stops_root hs
  exact ⟨hroute.place d, hfield⟩

/-- The column of a field that is not zero and no join, if column names keep the property. -/
theorem Field.OwnNamed.target_column {f : Field} (h : f.OwnNamed ok)
    (hsnake : ∀ name, ok name → ok (snakeCase name)) {tag : Tag} (htag : f.HasTag tag)
    (hzero : f.isZero = false) (hop : tag.operator ≠ .join) (table : String) :
    ok (Compiler.target tag table f.name).column := by
  unfold Compiler.target
  cases hcolumn : tag.column with
  | none => exact hsnake _ (h.name tag htag hzero hop hcolumn)
  | some column => exact (h.tag tag htag).column column hcolumn

end Visits

end SqlFilter
