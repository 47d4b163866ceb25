import SqlFilter.Proofs.Visit

/-!
# The way of a walk, whatever the dialect

Which fields a walk visits, and through which joins it gets there, depends on the filter alone.
The dialect only decides how the joins are written.  A `Route` therefore keeps the joins as what
their tags say, a `Stop` is a field with the route to it, and `Filter.stops` lists the stops of a
walk.  The visited fields of either dialect are those stops with the joins written out, so two
walks of one filter can be compared stop by stop.

## Main results

* `Hop`, `Route`, `Stop`, `Filter.stops`.
* `Filter.visits_place`, `Filter.visits_root`: the visited fields, from the stops.
-/

namespace SqlFilter

/-! ## Routes -/

/-- A join on the way: its target, and what it is joined to. -/
structure Hop where
  join : JoinTarget
  target : Target
  deriving DecidableEq

/-- The join clause of a hop. -/
def Hop.clause (d : Dialect) (h : Hop) : String := d.joinClause h.join h.target

/-- Where a walk is. -/
structure Route where
  /-- The joins that lead to the scope. -/
  hops : List Hop
  /-- How many filters are around. -/
  depth : Nat
  /-- The table in force. -/
  table : String

namespace Route

/-- Outside a filter about a table. -/
def root (table : String) : Route := ⟨[], 0, table⟩

/-- The table in force inside a filter. -/
def inTable (r : Route) (table : String) : Route :=
  ⟨r.hops, r.depth, if table = "" then r.table else table⟩

/-- Inside a filter that stands in a field without a tag. -/
def inside (r : Route) : Route := ⟨r.hops, r.depth + 1, r.table⟩

/-- Inside the filter of a join. -/
def joined (r : Route) (h : Hop) : Route := ⟨r.hops ++ [h], r.depth + 1, h.join.table⟩

/-- The path of join clauses to the scope. -/
def path (d : Dialect) (r : Route) : List String := r.hops.map (Hop.clause d)

/-- The place, with the joins as the dialect writes them. -/
def place (d : Dialect) (r : Route) : Place := ⟨r.path d, r.depth, r.table⟩

theorem place_joined (d : Dialect) (r : Route) (h : Hop) :
    (r.joined h).place d = (r.place d).joined (h.clause d) h.join.table := by
  simp only [place, path, joined, Place.joined, List.map_append, List.map_singleton]

end Route

/-! ## Stops -/

/-- A field and the route on which a walk meets it. -/
structure Stop where
  route : Route
  field : Field

/-- The visited field, with the joins as the dialect writes them. -/
def Stop.visit (d : Dialect) (s : Stop) : Visit := ⟨s.route.place d, s.field⟩

mutual
/-- The stops of a walk of the filter, in order. -/
def Filter.stops (r : Route) : Filter → List Stop
  | ⟨table, fields⟩ => Field.stopsAll (r.inTable table) fields

/-- The stops at a list of fields and in the filters in them. -/
def Field.stopsAll (r : Route) : List Field → List Stop
  | [] => []
  | field :: rest => field.stops r ++ Field.stopsAll r rest

/-- The stop at the field itself, and those inside it. -/
def Field.stops (r : Route) : Field → List Stop
  | ⟨name, none, isZero, value⟩ => ⟨r, ⟨name, none, isZero, value⟩⟩ :: value.stops r.inside
  | ⟨name, some text, isZero, value⟩ =>
    ⟨r, ⟨name, some text, isZero, value⟩⟩ ::
      match Tag.parse text with
      | .ok (some tag) =>
        if isZero then []
        else
          match tag.join with
          | some join => value.stops (r.joined ⟨join, Compiler.target tag r.table name⟩)
          | none => []
      | _ => []

/-- The stops inside a value. -/
def FieldValue.stops (r : Route) : FieldValue → List Stop
  | .nested inner => inner.stops r
  | _ => []
end

mutual
/-- **The visited fields are the stops**, with the joins as the dialect writes them. -/
theorem Filter.visits_place (d : Dialect) : ∀ (f : Filter) (r : Route),
    f.visits d (r.place d) = (f.stops r).map (Stop.visit d)
  | ⟨table, fields⟩, r => Field.visitsAll_place d fields (r.inTable table)

theorem Field.visitsAll_place (d : Dialect) : ∀ (fields : List Field) (r : Route),
    Field.visitsAll d (r.place d) fields = (Field.stopsAll r fields).map (Stop.visit d)
  | [], _ => rfl
  | field :: rest, r => by
      rw [Field.visitsAll, Field.stopsAll, List.map_append, Field.visits_place d field r,
        Field.visitsAll_place d rest r]

theorem Field.visits_place (d : Dialect) : ∀ (field : Field) (r : Route),
    field.visits d (r.place d) = (field.stops r).map (Stop.visit d)
  | ⟨name, none, isZero, value⟩, r => by
      rw [Field.visits, Field.stops, List.map_cons, ← FieldValue.visits_place d value r.inside]
      rfl
  | ⟨name, some text, isZero, value⟩, r => by
      have hvalue := fun h => FieldValue.visits_place d value (r.joined h)
      unfold Field.visits Field.stops
      rw [List.map_cons]
      refine congrArg (List.cons _) ?_
      cases Tag.parse text with
      | error e => rfl
      | ok parsed =>
          cases parsed with
          | none => rfl
          | some tag =>
              cases isZero with
              | true => rfl
              | false =>
                  cases hjoin : tag.join with
                  | none => simp [hjoin]
                  | some join =>
                      have hinner := hvalue ⟨join, Compiler.target tag r.table name⟩
                      rw [Route.place_joined] at hinner
                      simp only [hjoin, Bool.false_eq_true, ↓reduceIte]
                      exact hinner

theorem FieldValue.visits_place (d : Dialect) : ∀ (value : FieldValue) (r : Route),
    value.visits d (r.place d) = (value.stops r).map (Stop.visit d)
  | .nested inner, r => Filter.visits_place d inner r
  | .null, _ => rfl
  | .scalar _, _ => rfl
  | .list _, _ => rfl
end

/-- The visited fields of a filter that stands in no other. -/
theorem Filter.visits_root (d : Dialect) (f : Filter) (table : String) :
    f.visits d (.root table) = (f.stops (.root table)).map (Stop.visit d) :=
  Filter.visits_place d f (.root table)

end SqlFilter
