import SqlFilter.Proofs.Rendering
import SqlFilter.Proofs.Scopes

/-!
# Counting the rows that are read

The statement that counts rows has to count those that the other statement reads, so it must not
differ from it in anything that picks rows.  Both are put together by the same code behind
different heads.  What stands behind the head, the joins and the conditions with their marks, is
made of the condition without its sort terms; these and the window only come behind it, and only
where rows are read.

## Main results

* `Condition.unsorted`: a condition without its sort terms.
* `Select.body`, `Select.body_unsorted`: what both statements have in common.
* `Select.count_has_body_of_query`.
-/

namespace SqlFilter

/-! ## Conditions without their sort terms -/

mutual
/-- A condition without its sort terms, and without those of the scopes below it. -/
def Condition.unsorted : Condition → Condition
  | ⟨wheres, ors, _, joins⟩ => ⟨wheres, ors, [], Condition.unsortedScopes joins⟩

/-- Join scopes without their sort terms. -/
def Condition.unsortedScopes : List JoinScope → List JoinScope
  | [] => []
  | s :: rest => Condition.unsortedScope s :: Condition.unsortedScopes rest

/-- A join scope without its sort terms. -/
def Condition.unsortedScope : JoinScope → JoinScope
  | ⟨on, condition⟩ => ⟨on, condition.unsorted⟩
end

namespace Condition

@[simp] theorem wheres_unsorted (c : Condition) : c.unsorted.wheres = c.wheres := by
  cases c
  rfl

@[simp] theorem ors_unsorted (c : Condition) : c.unsorted.ors = c.ors := by
  cases c
  rfl

@[simp] theorem on_unsortedScope (s : JoinScope) : (unsortedScope s).on = s.on := by
  cases s
  rfl

@[simp] theorem condition_unsortedScope (s : JoinScope) :
    (unsortedScope s).condition = s.condition.unsorted := by
  cases s
  rfl

mutual
theorem flattenJoins_unsorted : ∀ c : Condition,
    c.unsorted.flattenJoins = c.flattenJoins.map unsortedScope
  | ⟨_, _, _, joins⟩ => flattenScopes_unsorted joins

theorem flattenScopes_unsorted : ∀ joins : List JoinScope,
    flattenScopes (unsortedScopes joins) = (flattenScopes joins).map unsortedScope
  | [] => rfl
  | s :: rest => by
      rw [unsortedScopes, flattenScopes, flattenScope_unsorted s, flattenScopes_unsorted rest,
        flattenScopes, List.map_cons, List.map_append]

theorem flattenScope_unsorted : ∀ s : JoinScope,
    flattenScope (unsortedScope s) = (flattenScope s).map unsortedScope
  | ⟨_, condition⟩ => flattenJoins_unsorted condition
end

theorem scopes_unsorted (c : Condition) : c.unsorted.scopes = c.scopes.map unsorted := by
  have hscopes : c.flattenJoins.map (JoinScope.condition ∘ unsortedScope) =
      c.flattenJoins.map (unsorted ∘ JoinScope.condition) :=
    List.map_congr_left fun s _ => condition_unsortedScope s
  rw [scopes, flattenJoins_unsorted, scopes, List.map_append, List.map_map, List.map_map, hscopes]
  rfl

/-- The joins of a statement do not depend on sort terms. -/
theorem joinText_unsorted (c : Condition) :
    joinText c.unsorted.flattenJoins = joinText c.flattenJoins := by
  have hons : c.flattenJoins.map (JoinScope.on ∘ unsortedScope) =
      c.flattenJoins.map JoinScope.on :=
    List.map_congr_left fun s _ => on_unsortedScope s
  rw [joinText, flattenJoins_unsorted, List.map_map, hons, joinText]

end Condition

/-! ## Texts that are only there if there is something to say -/

theorem sortText_eq_empty_iff (orders : List String) : sortText orders = "" ↔ orders = [] := by
  unfold sortText
  cases orders with
  | nil => simp
  | cons term rest => simp

theorem windowText_eq_empty_iff (limit : Option UInt64) (offset : UInt64) :
    windowText limit offset = "" ↔ limit = none := by
  cases limit with
  | none => simp [windowText]
  | some limit => simp [windowText]

namespace Select

/-! ## What both statements have in common -/

/-- The joins and conditions of a statement, with what is bound to its marks. -/
def body (d : Dialect) (c : Condition) : Statement :=
  (Statement.appendFilters d ⟨"", []⟩ (c.scopes.flatMap Condition.wheres)
    (c.scopes.flatMap Condition.ors)).behind (joinText c.flattenJoins)

theorem filtered_eq_body (s : Select) (d : Dialect) (head : String) :
    s.filtered d head = (body d s.condition).behind (head ++ d.quote s.table) := by
  rw [filtered_eq_behind]
  simp only [body, Statement.behind, String.append_assoc]
  rfl

/-- The body does not depend on sort terms. -/
theorem body_unsorted (d : Dialect) (c : Condition) : body d c.unsorted = body d c := by
  have hwheres : c.unsorted.scopes.flatMap Condition.wheres =
      c.scopes.flatMap Condition.wheres := by
    rw [Condition.scopes_unsorted, List.flatMap_map]
    simp
  have hors : c.unsorted.scopes.flatMap Condition.ors = c.scopes.flatMap Condition.ors := by
    rw [Condition.scopes_unsorted, List.flatMap_map]
    simp
  rw [body, hwheres, hors, Condition.joinText_unsorted, body]

/-- The sort terms of a statement are those of all scopes. -/
theorem mem_sortTerms_iff {c : Condition} {term : String} :
    term ∈ c.scopes.flatMap Condition.orders ↔
      ∃ path scope, c.HasScope path scope ∧ term ∈ scope.orders := by
  rw [List.mem_flatMap]
  constructor
  · rintro ⟨scope, hscope, hterm⟩
    obtain ⟨path, hpath⟩ := Condition.mem_scopes_iff.mp hscope
    exact ⟨path, scope, hpath, hterm⟩
  · rintro ⟨path, scope, hpath, hterm⟩
    exact ⟨scope, hpath.mem_scopes, hterm⟩

/-- **The count is of the rows that are read.**  Over any condition, the statement that reads the
rows and the one that counts them have the same body behind their heads, with the same parameters,
and the body depends on nothing but the dialect and the condition without its sort terms.  Behind
the body the first one has the sort terms of all scopes, if there are any, and the window, if there
is one; the second one has nothing. -/
theorem count_has_body_of_query : ∃ body : Dialect → Condition → Statement,
    ∀ (d : Dialect) (table : String) (c : Condition) (limit : Option UInt64) (offset : UInt64),
      query ⟨table, c, limit, offset⟩ d =
          ⟨"SELECT " ++ d.qualifyAll table ++ " FROM " ++ d.quote table ++
              (body d c.unsorted).sql ++
              (sortText (c.scopes.flatMap Condition.orders) ++ windowText limit offset),
            (body d c.unsorted).params⟩ ∧
        count ⟨table, c, limit, offset⟩ d =
          ⟨"SELECT COUNT(*) FROM " ++ d.quote table ++ (body d c.unsorted).sql,
            (body d c.unsorted).params⟩ ∧
        (∀ term, term ∈ c.scopes.flatMap Condition.orders ↔
          ∃ path scope, c.HasScope path scope ∧ term ∈ scope.orders) ∧
        (sortText (c.scopes.flatMap Condition.orders) = "" ↔
          ∀ path scope, c.HasScope path scope → scope.orders = []) ∧
        (windowText limit offset = "" ↔ limit = none) := by
  refine ⟨body, fun d table c limit offset =>
    ⟨?_, ?_, fun term => mem_sortTerms_iff, ?_, windowText_eq_empty_iff limit offset⟩⟩
  · rw [query_eq_append, filtered_eq_body, body_unsorted]
    simp only [Statement.behind, Statement.append, String.append_assoc]
    rfl
  · rw [count, filtered_eq_body, body_unsorted]
    rfl
  · rw [sortText_eq_empty_iff, List.flatMap_eq_nil_iff]
    exact ⟨fun h path scope hpath => h scope hpath.mem_scopes, fun h scope hscope =>
      (Condition.mem_scopes_iff.mp hscope).elim fun path hpath => h path scope hpath⟩

/-- Grown-up users, with those orders that have a question mark for a note, by their totals.  The
mark in the note is no parameter, and it is numbered all the same. -/
def ordersByTotal : Condition :=
  ⟨[⟨"users.age >= ?", [.int 18]⟩], [], [],
    [⟨"LEFT JOIN orders ON orders.user_id = users.id",
      ⟨[⟨"orders.note = '?'", []⟩], [], ["orders.total desc"], []⟩⟩]⟩

example : query ⟨"users", ordersByTotal, some 20, 40⟩ .postgres =
      ⟨"SELECT users.* FROM users LEFT JOIN orders ON orders.user_id = users.id " ++
          "WHERE orders.note = '$1' AND users.age >= $1 " ++
          "ORDER BY orders.total desc LIMIT 20 OFFSET 40", [.int 18]⟩ ∧
    count ⟨"users", ordersByTotal, some 20, 40⟩ .postgres =
      ⟨"SELECT COUNT(*) FROM users LEFT JOIN orders ON orders.user_id = users.id " ++
          "WHERE orders.note = '$1' AND users.age >= $1", [.int 18]⟩ := by
  decide +kernel

end Select

end SqlFilter
