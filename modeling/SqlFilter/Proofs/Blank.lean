import SqlFilter.Proofs.Rendering
import SqlFilter.Proofs.Trace

/-!
# Conditions without their values

Taking the values out of a condition leaves null in place of every parameter: all texts stay, and
so does the number of parameters.  Whatever is done with a condition, it makes no difference
whether the values are taken out before or after.  So two conditions that agree without their
values have the same statements, up to what is bound to the marks.

## Main results

* `Condition.blank`: a condition without its values.
* `Condition.blank_registerAll`: registrations do not look at values.
* `Select.blank_query`, `Select.blank_count`, `Select.sql_eq_of_blank_eq`: neither do statements.
-/

namespace SqlFilter

/-! ## Taking values out -/

/-- Null in place of every parameter. -/
def blankParams (params : List SqlValue) : List SqlValue := params.map fun _ => .null

theorem length_blankParams (params : List SqlValue) : (blankParams params).length = params.length :=
  List.length_map _

theorem blankParams_eq_of_length_eq {vs vs' : List SqlValue} (h : vs.length = vs'.length) :
    blankParams vs = blankParams vs' := by
  unfold blankParams
  rw [List.map_const', List.map_const', h]

/-- A predicate without its values. -/
def Predicate.blank (p : Predicate) : Predicate := ⟨p.fragment, blankParams p.params⟩

mutual
/-- A condition without its values: the texts of every scope, and null for every parameter. -/
def Condition.blank : Condition → Condition
  | ⟨wheres, ors, orders, joins⟩ =>
    ⟨wheres.map Predicate.blank, ors.map Predicate.blank, orders, Condition.blankScopes joins⟩

/-- Join scopes without their values. -/
def Condition.blankScopes : List JoinScope → List JoinScope
  | [] => []
  | s :: rest => Condition.blankScope s :: Condition.blankScopes rest

/-- A join scope without its values. -/
def Condition.blankScope : JoinScope → JoinScope
  | ⟨on, condition⟩ => ⟨on, condition.blank⟩
end

/-- A clause without its values. -/
def Clause.blank : Clause → Clause
  | .predicate group p => .predicate group p.blank
  | .order term => .order term
  | .scope => .scope

/-- A registration without its values. -/
def Registration.blank (r : Registration) : Registration := ⟨r.path, r.clause.blank⟩

/-- A trace without its values. -/
def Trace.blank (t : Trace) : Trace := ⟨t.steps.map Registration.blank, t.error⟩

/-- A statement without its values. -/
def Statement.blank (s : Statement) : Statement := ⟨s.sql, blankParams s.params⟩

namespace Condition

@[simp] theorem wheres_blank (c : Condition) : c.blank.wheres = c.wheres.map Predicate.blank := by
  cases c
  rfl

@[simp] theorem ors_blank (c : Condition) : c.blank.ors = c.ors.map Predicate.blank := by
  cases c
  rfl

@[simp] theorem orders_blank (c : Condition) : c.blank.orders = c.orders := by
  cases c
  rfl

@[simp] theorem on_blankScope (s : JoinScope) : (blankScope s).on = s.on := by
  cases s
  rfl

@[simp] theorem condition_blankScope (s : JoinScope) :
    (blankScope s).condition = s.condition.blank := by
  cases s
  rfl

theorem blankScopes_eq_map (joins : List JoinScope) :
    blankScopes joins = joins.map blankScope := by
  induction joins with
  | nil => rfl
  | cons s rest ih => rw [blankScopes, ih, List.map_cons]

/-! ## Registering -/

theorem blank_upsert (p : Predicate) (ps : List Predicate) :
    (upsert p ps).map Predicate.blank = upsert p.blank (ps.map Predicate.blank) := by
  induction ps with
  | nil => rfl
  | cons q rest ih =>
      -- the fragments decide where the predicate goes, and they stay
      by_cases h : q.fragment = p.fragment
      · have hblank : q.blank.fragment = p.blank.fragment := h
        rw [upsert, if_pos h, List.map_cons, List.map_cons, upsert, if_pos hblank]
      · have hblank : ¬ q.blank.fragment = p.blank.fragment := h
        rw [upsert, if_neg h, List.map_cons, List.map_cons, upsert, if_neg hblank, ih]

theorem blank_addClause (clause : Clause) (c : Condition) :
    (c.addClause clause).blank = c.blank.addClause clause.blank := by
  rcases c with ⟨wheres, ors, orders, joins⟩
  cases clause with
  | predicate group p =>
      cases group with
      | and =>
          show Condition.mk _ _ _ _ = _
          rw [blank_upsert]
          rfl
      | or =>
          show Condition.mk _ _ _ _ = _
          rw [blank_upsert]
          rfl
  | order term => rfl
  | scope => rfl

theorem blankScopes_updateScope (on : String) {change change' : Condition → Condition}
    (hchange : ∀ c, (change c).blank = change' c.blank) (joins : List JoinScope) :
    blankScopes (updateScope on change joins) = updateScope on change' (blankScopes joins) := by
  induction joins with
  | nil =>
      have hempty : (change empty).blank = change' empty := hchange empty
      rw [updateScope, blankScopes, blankScopes, blankScope.eq_1, hempty]
      rfl
  | cons s rest ih =>
      rcases s with ⟨own, scope⟩
      by_cases h : own = on
      · rw [updateScope, if_pos h, blankScopes, blankScope, hchange, blankScopes, blankScope,
          updateScope, if_pos h]
      · rw [updateScope, if_neg h, blankScopes, blankScope, blankScopes, blankScope, updateScope,
          if_neg h, ih]

theorem blank_inScope {change change' : Condition → Condition}
    (hchange : ∀ c, (change c).blank = change' c.blank) (path : List String) :
    ∀ c : Condition, (inScope change path c).blank = inScope change' path c.blank := by
  induction path with
  | nil => exact hchange
  | cons on path ih =>
      intro c
      rcases c with ⟨wheres, ors, orders, joins⟩
      have hscopes := blankScopes_updateScope on ih joins
      show Condition.mk _ _ _ (blankScopes (updateScope on (inScope change path) joins)) = _
      rw [hscopes]
      rfl

theorem blank_register (c : Condition) (r : Registration) :
    (c.register r).blank = c.blank.register r.blank :=
  blank_inScope (blank_addClause r.clause) r.path c

/-- **Registrations do not look at values**: neither at those they bring nor at those that are
there. -/
theorem blank_registerAll (rs : List Registration) : ∀ c : Condition,
    (c.registerAll rs).blank = c.blank.registerAll (rs.map Registration.blank) := by
  induction rs with
  | nil =>
      intro c
      rfl
  | cons r rest ih =>
      intro c
      have hrest := ih (c.register r)
      rw [blank_register] at hrest
      exact hrest

/-! ## Scopes -/

mutual
theorem flattenJoins_blank : ∀ c : Condition, c.blank.flattenJoins = blankScopes c.flattenJoins
  | ⟨_, _, _, joins⟩ => flattenScopes_blank joins

theorem flattenScopes_blank : ∀ joins : List JoinScope,
    flattenScopes (blankScopes joins) = blankScopes (flattenScopes joins)
  | [] => rfl
  | s :: rest => by
      rw [blankScopes, flattenScopes, flattenScope_blank s, flattenScopes_blank rest,
        flattenScopes, blankScopes, blankScopes_eq_map, blankScopes_eq_map, blankScopes_eq_map,
        List.map_append]

theorem flattenScope_blank : ∀ s : JoinScope,
    flattenScope (blankScope s) = blankScopes (flattenScope s)
  | ⟨_, condition⟩ => flattenJoins_blank condition
end

theorem scopes_blank (c : Condition) : c.blank.scopes = c.scopes.map Condition.blank := by
  have hscopes : ∀ joins, (blankScopes joins).map JoinScope.condition =
      (joins.map JoinScope.condition).map blank := by
    intro joins
    simp [blankScopes_eq_map]
  rw [scopes, flattenJoins_blank, hscopes, scopes, List.map_append]
  rfl

theorem joinText_blankScopes (joins : List JoinScope) :
    joinText (blankScopes joins) = joinText joins := by
  have hons : (blankScopes joins).map JoinScope.on = joins.map JoinScope.on := by
    simp [blankScopes_eq_map]
  rw [joinText, hons, joinText]

end Condition

/-! ## Statements -/

namespace Statement

theorem blank_appendPredicate (d : Dialect) (s : Statement) (p : Predicate) :
    (s.appendPredicate d p).blank = s.blank.appendPredicate d p.blank := by
  show Statement.mk _ (blankParams (s.params ++ p.params)) = Statement.mk _ _
  rw [blankParams, List.map_append]
  show Statement.mk _ _ = Statement.mk (_ ++ numberMarks d (blankParams s.params).length _) _
  rw [length_blankParams]
  rfl

theorem blank_foldl (d : Dialect) (word : String) (ps : List Predicate) : ∀ s : Statement,
    (ps.foldl (fun s q => (s.append word).appendPredicate d q) s).blank =
      (ps.map Predicate.blank).foldl (fun s q => (s.append word).appendPredicate d q) s.blank := by
  induction ps with
  | nil =>
      intro s
      rfl
  | cons p rest ih =>
      intro s
      have hstep := blank_appendPredicate d (s.append word) p
      rw [List.foldl_cons, ih, hstep, List.map_cons, List.foldl_cons]
      rfl

theorem blank_appendJoined (d : Dialect) (word : String) (ps : List Predicate) (s : Statement) :
    (s.appendJoined d word ps).blank = s.blank.appendJoined d word (ps.map Predicate.blank) := by
  cases ps with
  | nil => rfl
  | cons p rest =>
      rw [appendJoined, blank_foldl, blank_appendPredicate]
      rfl

theorem blank_appendFilters (d : Dialect) (s : Statement) (wheres ors : List Predicate) :
    (s.appendFilters d wheres ors).blank =
      s.blank.appendFilters d (wheres.map Predicate.blank) (ors.map Predicate.blank) := by
  cases wheres with
  | nil =>
      cases ors with
      | nil => rfl
      | cons q qs => exact blank_appendJoined d " OR " (q :: qs) (s.append " WHERE ")
  | cons p ps =>
      cases ors with
      | nil => exact blank_appendJoined d " AND " (p :: ps) (s.append " WHERE ")
      | cons q qs =>
          have hinner := blank_appendJoined d " AND " (p :: ps) (s.append " WHERE (")
          have hclosed := congrArg (fun st : Statement => st.append ")") hinner
          exact (blank_foldl d " OR " (q :: qs) _).trans
            (congrArg (List.foldl _ · _) hclosed)

end Statement

namespace Select

/-- What to read, without the values. -/
def blank (s : Select) : Select := { s with condition := s.condition.blank }

theorem flatMap_wheres_blank (scopes : List Condition) :
    (scopes.map Condition.blank).flatMap Condition.wheres =
      (scopes.flatMap Condition.wheres).map Predicate.blank := by
  simp [List.flatMap_map, List.map_flatMap]

theorem flatMap_ors_blank (scopes : List Condition) :
    (scopes.map Condition.blank).flatMap Condition.ors =
      (scopes.flatMap Condition.ors).map Predicate.blank := by
  simp [List.flatMap_map, List.map_flatMap]

theorem flatMap_orders_blank (scopes : List Condition) :
    (scopes.map Condition.blank).flatMap Condition.orders = scopes.flatMap Condition.orders := by
  simp [List.flatMap_map]

theorem blank_filtered (s : Select) (d : Dialect) (head : String) :
    (s.filtered d head).blank = s.blank.filtered d head := by
  unfold filtered blank
  rw [Statement.blank_appendFilters, Statement.foldl_append_joins, Statement.foldl_append_joins,
    Condition.scopes_blank, Condition.flattenJoins_blank, Condition.joinText_blankScopes,
    flatMap_wheres_blank, flatMap_ors_blank]
  rfl

/-- **The statement that reads the rows does not look at values.** -/
theorem blank_query (s : Select) (d : Dialect) : (s.query d).blank = s.blank.query d := by
  have horders : s.blank.orders = s.orders := by
    unfold orders blank
    rw [Condition.scopes_blank, flatMap_orders_blank]
  rw [query_eq_append, query_eq_append, horders]
  exact congrArg
    (fun st : Statement => (st.append (sortText s.orders)).append (windowText s.limit s.offset))
    (blank_filtered s d _)

/-- The statement that counts the rows does not look at values. -/
theorem blank_count (s : Select) (d : Dialect) : (s.count d).blank = s.blank.count d :=
  blank_filtered s d _

/-- Statements over conditions that are the same without their values have the same text. -/
theorem sql_eq_of_blank_eq {condition condition' : Condition}
    (h : condition.blank = condition'.blank) (table : String) (limit : Option UInt64)
    (offset : UInt64) (d : Dialect) :
    (query ⟨table, condition, limit, offset⟩ d).sql =
        (query ⟨table, condition', limit, offset⟩ d).sql ∧
      (count ⟨table, condition, limit, offset⟩ d).sql =
        (count ⟨table, condition', limit, offset⟩ d).sql := by
  have hselect : blank ⟨table, condition, limit, offset⟩ =
      blank ⟨table, condition', limit, offset⟩ := by
    show Select.mk _ _ _ _ = Select.mk _ _ _ _
    rw [h]
  constructor
  · have hquery : (query ⟨table, condition, limit, offset⟩ d).blank =
        (query ⟨table, condition', limit, offset⟩ d).blank := by
      rw [blank_query, blank_query, hselect]
    have hsql := congrArg Statement.sql hquery
    exact hsql
  · have hcount : (count ⟨table, condition, limit, offset⟩ d).blank =
        (count ⟨table, condition', limit, offset⟩ d).blank := by
      rw [blank_count, blank_count, hselect]
    have hsql := congrArg Statement.sql hcount
    exact hsql

end Select

end SqlFilter
