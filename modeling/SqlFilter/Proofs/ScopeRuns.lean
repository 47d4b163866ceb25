import SqlFilter.Proofs.Merge
import SqlFilter.Proofs.Scopes
import Mathlib.Data.List.Induction

/-!
# A scope is the outcome of what is registered for it

A run of registrations changes many scopes, but each scope only sees its own share: the
registrations whose path leads into it, with the path cut off.  So the scope at the end of a path
is what its share makes of an empty condition, and what is to be shown of the scopes of a condition
can be shown of the root of another one.

## Main results

* `Condition.HasScope.eq_registerAll`: the scope at the end of a path, from its share.
* `Condition.hasScope_registerAll_iff`: which scopes there are.
* `Condition.HasScope.predicates_eq`: the predicates of a scope.
* `Condition.ons_registerAll`: the joins of a root, in the order in which they were first opened.
-/

namespace SqlFilter

/-! ## The share of a scope -/

/-- The registration as the scope of a join sees it, if its path leads through the join. -/
def Registration.inside? (on : String) (r : Registration) : Option Registration :=
  match r.path with
  | [] => none
  | first :: rest => if first = on then some ⟨rest, r.clause⟩ else none

/-- The registrations as the scope at the end of a path sees them: those whose path begins with
the path, cut off. -/
def shareOf : List String → List Registration → List Registration
  | [], rs => rs
  | on :: path, rs => shareOf path (rs.filterMap (Registration.inside? on))

/-- The predicate that is registered, if it is meant for the scope at the end of the path and for
the group. -/
def Registration.predicateAt? (path : List String) (group : Group) (r : Registration) :
    Option Predicate :=
  match r.clause with
  | .predicate g p => if r.path = path ∧ g = group then some p else none
  | _ => none

theorem mem_shareOf {r : Registration} : ∀ {path : List String} {rs : List Registration},
    r ∈ shareOf path rs ↔ ⟨path ++ r.path, r.clause⟩ ∈ rs := by
  intro path
  induction path with
  | nil => intro rs; rfl
  | cons on path ih =>
      intro rs
      rw [shareOf, ih, List.mem_filterMap]
      constructor
      · rintro ⟨⟨_ | ⟨first, rest⟩, clause⟩, hr, hinside⟩
        · cases hinside
        · simp only [Registration.inside?] at hinside
          split at hinside
          · rename_i hfirst
            cases hinside
            rw [List.cons_append, ← hfirst]
            exact hr
          · cases hinside
      · intro hr
        exact ⟨_, hr, by simp [Registration.inside?]⟩

theorem shareOf_append : ∀ (path : List String) (rs rs' : List Registration),
    shareOf path (rs ++ rs') = shareOf path rs ++ shareOf path rs' := by
  intro path
  induction path with
  | nil => intro rs rs'; rfl
  | cons on path ih =>
      intro rs rs'
      rw [shareOf, List.filterMap_append, ih]
      rfl

namespace Condition

theorem registerAll_append (c : Condition) (rs rs' : List Registration) :
    c.registerAll (rs ++ rs') = (c.registerAll rs).registerAll rs' := List.foldl_append

/-! ## The scope of one join -/

theorem scopeOf_empty (on : String) : scopeOf on empty = empty := rfl

theorem scopeOf_cons (on : String) (wheres ors : List Predicate) (orders : List String)
    (s : JoinScope) (rest : List JoinScope) :
    scopeOf on ⟨wheres, ors, orders, s :: rest⟩ =
      if s.on = on then s.condition else scopeOf on ⟨wheres, ors, orders, rest⟩ := by
  by_cases h : s.on = on
  · simp [scopeOf, h]
  · simp [scopeOf, h]

/-- The scope of a join is the one that stands in the list, if no join is open twice. -/
theorem condition_eq_scopeOf {c : Condition} (hons : (c.joins.map JoinScope.on).Nodup)
    {s : JoinScope} (hs : s ∈ c.joins) : s.condition = scopeOf s.on c := by
  obtain ⟨wheres, ors, orders, joins⟩ := c
  induction joins with
  | nil => cases hs
  | cons j rest ih =>
      obtain ⟨hj, hrest⟩ := List.nodup_cons.mp hons
      rw [scopeOf_cons]
      rcases List.mem_cons.mp hs with rfl | hs
      · rw [if_pos rfl]
      · have hne : ¬ j.on = s.on := fun he => hj (he ▸ List.mem_map_of_mem hs)
        rw [if_neg hne]
        exact ih hrest hs

/-- Changing the scope of a join changes that scope and no other. -/
theorem scopeOf_updateScope (on : String) (change : Condition → Condition) (other : String)
    (c : Condition) :
    scopeOf other { c with joins := updateScope on change c.joins } =
      if on = other then change (scopeOf other c) else scopeOf other c := by
  obtain ⟨wheres, ors, orders, joins⟩ := c
  induction joins with
  | nil => by_cases h : on = other <;> simp [updateScope, scopeOf, h]
  | cons s rest ih =>
      by_cases hs : s.on = on
      · by_cases hother : on = other <;> simp [updateScope, scopeOf_cons, hs, hother]
      · simp only [updateScope, if_neg hs, scopeOf_cons] at ih ⊢
        rw [ih]
        by_cases hother : s.on = other
        · have hne : ¬ on = other := fun he => hs (hother.trans he.symm)
          rw [if_pos hother, if_pos hother, if_neg hne]
        · rw [if_neg hother, if_neg hother]

/-- What one registration makes of the scope of a join: what its share makes of it. -/
theorem scopeOf_register (on : String) (c : Condition) (r : Registration) :
    scopeOf on (c.register r) =
      match r.inside? on with
      | none => scopeOf on c
      | some inner => (scopeOf on c).register inner := by
  obtain ⟨_ | ⟨first, rest⟩, clause⟩ := r
  · simp only [register, inScope, Registration.inside?, scopeOf, joins_addClause]
  · simp only [register, inScope, Registration.inside?]
    rw [scopeOf_updateScope]
    split <;> rfl

/-- **The scope of a join after a run** is what its share of the run makes of it. -/
theorem scopeOf_registerAll (on : String) (rs : List Registration) : ∀ c : Condition,
    scopeOf on (c.registerAll rs) =
      (scopeOf on c).registerAll (rs.filterMap (Registration.inside? on)) := by
  induction rs with
  | nil =>
      intro c
      rfl
  | cons r rest ih =>
      intro c
      have hrest := ih (c.register r)
      rw [scopeOf_register] at hrest
      rw [List.filterMap_cons]
      cases hinside : r.inside? on with
      | none =>
          rw [hinside] at hrest
          exact hrest
      | some inner =>
          rw [hinside] at hrest
          exact hrest

/-- **A scope of a condition is the outcome of its share** of the registrations. -/
theorem HasScope.eq_registerAll {t : Condition} : ∀ {path : List String} {rs : List Registration},
    (empty.registerAll rs).HasScope path t → t = empty.registerAll (shareOf path rs) := by
  intro path
  induction path with
  | nil =>
      intro rs h
      cases h
      rfl
  | cons on path ih =>
      intro rs h
      have hkeyed := (keyed_iff _).mp (keyed_registerAll_empty rs)
      cases h with
      | @join _ _ s _ mem inner =>
          have hscope := condition_eq_scopeOf hkeyed.2.2.1 mem
          rw [scopeOf_registerAll, scopeOf_empty] at hscope
          rw [hscope] at inner
          exact ih inner

/-! ## The joins of a root -/

/-- Without repetitions, one more key is put at the end if it is new. -/
private theorem eraseDups_append_singleton (keys : List String) (key : String) :
    (keys ++ [key]).eraseDups =
      if key ∈ keys then keys.eraseDups else keys.eraseDups ++ [key] := by
  rw [List.eraseDups_append]
  by_cases h : key ∈ keys
  · simp [List.removeAll, h]
  · simp [List.removeAll, h, List.eraseDups_cons]

/-- The joins of a root after a run on an empty condition: each where it was opened first. -/
theorem ons_registerAll (rs : List Registration) :
    (empty.registerAll rs).joins.map JoinScope.on =
      (rs.filterMap fun r => r.path.head?).eraseDups := by
  induction rs using List.reverseRecOn with
  | nil => rfl
  | append_singleton rs r ih =>
      have hlast : empty.registerAll (rs ++ [r]) = (empty.registerAll rs).register r :=
        List.foldl_append
      rw [hlast, List.filterMap_append]
      obtain ⟨_ | ⟨on, path⟩, clause⟩ := r
      · simp only [register, inScope, joins_addClause, ih]
        rw [List.filterMap_cons_none rfl, List.filterMap_nil, List.append_nil]
      · have hmem : on ∈ (empty.registerAll rs).joins.map JoinScope.on ↔
            on ∈ rs.filterMap fun r => r.path.head? := by
          rw [ih, List.mem_eraseDups]
        have hhead : ([⟨on :: path, clause⟩] : List Registration).filterMap
            (fun r => r.path.head?) = [on] := rfl
        simp only [register, inScope]
        rw [ons_updateScope, hhead, eraseDups_append_singleton, ih]
        simp only [← hmem, ih]

/-- Through every join on a path there is a scope, if there are registrations for what lies at its
end. -/
theorem hasScope_of_mem_shareOf {path : List String} {rs : List Registration} {r : Registration}
    (h : r ∈ shareOf path rs) :
    (empty.registerAll rs).HasScope path (empty.registerAll (shareOf path rs)) := by
  induction path generalizing rs with
  | nil => exact .root _
  | cons on path ih =>
      have hkeyed := (keyed_iff _).mp (keyed_registerAll_empty rs)
      have hon : on ∈ (empty.registerAll rs).joins.map JoinScope.on := by
        rw [ons_registerAll, List.mem_eraseDups, List.mem_filterMap]
        exact ⟨_, mem_shareOf.mp h, rfl⟩
      obtain ⟨s, hs, rfl⟩ := List.mem_map.mp hon
      have hscope := condition_eq_scopeOf hkeyed.2.2.1 hs
      rw [scopeOf_registerAll, scopeOf_empty] at hscope
      have hinner := ih h
      rw [← hscope] at hinner
      exact .join hs hinner

/-- The scopes after a run: there is one for every path on the way to a registration, and it is
what its share makes of an empty one. -/
theorem hasScope_registerAll_iff {rs : List Registration} {path : List String} {t : Condition} :
    (empty.registerAll rs).HasScope path t ↔
      (path = [] ∨ ∃ r ∈ rs, path <+: r.path) ∧ t = empty.registerAll (shareOf path rs) := by
  constructor
  · intro h
    exact ⟨exists_lead_of_hasScope h, h.eq_registerAll⟩
  · rintro ⟨rfl | ⟨r, hr, rest, hrest⟩, rfl⟩
    · exact .root _
    · have hmem : (⟨rest, r.clause⟩ : Registration) ∈ shareOf path rs := by
        rw [mem_shareOf, hrest]
        exact hr
      exact hasScope_of_mem_shareOf hmem

theorem exists_hasScope_registerAll_iff {rs : List Registration} {path : List String} :
    (∃ t, (empty.registerAll rs).HasScope path t) ↔ path = [] ∨ ∃ r ∈ rs, path <+: r.path := by
  simp only [hasScope_registerAll_iff, exists_and_left, exists_eq, and_true]

/-! ## The predicates of a root -/

/-- The predicates of a group. -/
def predicates (group : Group) (c : Condition) : List Predicate :=
  match group with
  | .and => c.wheres
  | .or => c.ors

/-- The predicates among the clauses of a condition, group by group. -/
theorem predicate_mem_clauses {c : Condition} {group : Group} {p : Predicate} :
    .predicate group p ∈ c.clauses ↔ p ∈ c.predicates group := by
  rw [mem_clauses]
  cases group <;> simp [predicates]

theorem predicates_register (group : Group) (c : Condition) (r : Registration) :
    predicates group (c.register r) =
      match r.predicateAt? [] group with
      | none => c.predicates group
      | some p => upsert p (c.predicates group) := by
  rcases r with ⟨_ | ⟨on, path⟩, clause⟩
  · cases clause with
    | predicate g p => cases g <;> cases group <;> rfl
    | order term => cases group <;> rfl
    | scope => rfl
  · cases clause with
    | predicate g p => cases group <;> simp [Registration.predicateAt?] <;> rfl
    | order term => cases group <;> rfl
    | scope => cases group <;> rfl

/-- The predicates of a root after a run are those registered for the root, put in one by one. -/
theorem predicates_registerAll (group : Group) (rs : List Registration) : ∀ c : Condition,
    predicates group (c.registerAll rs) =
      upsertAll (rs.filterMap (Registration.predicateAt? [] group)) (c.predicates group) := by
  induction rs with
  | nil =>
      intro c
      rfl
  | cons r rest ih =>
      intro c
      have hrest := ih (c.register r)
      rw [predicates_register] at hrest
      rw [List.filterMap_cons]
      cases hat : r.predicateAt? [] group with
      | none =>
          rw [hat] at hrest
          exact hrest
      | some p =>
          rw [hat] at hrest
          exact hrest

theorem filterMap_predicateAt?_shareOf (group : Group) :
    ∀ (path : List String) (rs : List Registration),
      (shareOf path rs).filterMap (Registration.predicateAt? [] group) =
        rs.filterMap (Registration.predicateAt? path group) := by
  intro path
  induction path with
  | nil => intro rs; rfl
  | cons on path ih =>
      intro rs
      rw [shareOf, ih, List.filterMap_filterMap]
      refine List.filterMap_congr fun r _ => ?_
      obtain ⟨_ | ⟨first, rest⟩, clause⟩ := r
      · cases clause <;> simp [Registration.inside?, Registration.predicateAt?]
      · by_cases hfirst : first = on
        · cases clause <;> simp [Registration.inside?, Registration.predicateAt?, hfirst]
        · cases clause <;> simp [Registration.inside?, Registration.predicateAt?, hfirst]

/-- **The predicates of a scope** are those registered for it, put in one by one. -/
theorem HasScope.predicates_eq {rs : List Registration} {path : List String} {t : Condition}
    (h : (empty.registerAll rs).HasScope path t) (group : Group) :
    t.predicates group = upsertAll (rs.filterMap (Registration.predicateAt? path group)) [] := by
  have hempty : predicates group empty = [] := by cases group <;> rfl
  rw [h.eq_registerAll, predicates_registerAll, filterMap_predicateAt?_shareOf, hempty]

end Condition

end SqlFilter
