import SqlFilter.Proofs.ScopeRuns

/-!
# Conditions with their texts changed

Changing every text of a condition leaves its form: which scopes there are, which predicates stand
where, and what their parameters are.  Since predicates and joins are keyed by their texts, it does
make a difference whether texts are changed before or after a registration: two texts that become
the same would become one.  But if the change keeps apart the joins that occur, and in every scope
and group the predicates that do, it can be made before a run or after it.

## Main results

* `Condition.mapTexts`: a condition with its texts changed.
* `Condition.mapTexts_register`, `Condition.mapTexts_registerAll`: one registration, and a run.
-/

namespace SqlFilter

/-! ## Changing texts -/

/-- A predicate with its text changed. -/
def Predicate.mapText (change : String → String) (p : Predicate) : Predicate :=
  ⟨change p.fragment, p.params⟩

mutual
/-- A condition with all its texts changed. -/
def Condition.mapTexts (change : String → String) : Condition → Condition
  | ⟨wheres, ors, orders, joins⟩ =>
    ⟨wheres.map (Predicate.mapText change), ors.map (Predicate.mapText change),
      orders.map change, Condition.mapScopes change joins⟩

/-- Join scopes with all their texts changed. -/
def Condition.mapScopes (change : String → String) : List JoinScope → List JoinScope
  | [] => []
  | s :: rest => Condition.mapScope change s :: Condition.mapScopes change rest

/-- A join scope with all its texts changed. -/
def Condition.mapScope (change : String → String) : JoinScope → JoinScope
  | ⟨on, condition⟩ => ⟨change on, condition.mapTexts change⟩
end

/-- A clause with its text changed. -/
def Clause.mapText (change : String → String) : Clause → Clause
  | .predicate group p => .predicate group (p.mapText change)
  | .order term => .order (change term)
  | .scope => .scope

/-- A registration with its texts changed. -/
def Registration.mapTexts (change : String → String) (r : Registration) : Registration :=
  ⟨r.path.map change, r.clause.mapText change⟩

namespace Condition

variable {change : String → String}

/-! ## One registration -/

/-- A predicate can be put in before or after the change, if its text stays apart from those that
are there. -/
theorem map_mapText_upsert {p : Predicate} {ps : List Predicate}
    (hkeys : ∀ q ∈ ps, change q.fragment = change p.fragment → q.fragment = p.fragment) :
    (upsert p ps).map (Predicate.mapText change) =
      upsert (p.mapText change) (ps.map (Predicate.mapText change)) := by
  induction ps with
  | nil => rfl
  | cons q rest ih =>
      have hrest := ih fun q' hq' => hkeys q' (List.mem_cons_of_mem _ hq')
      by_cases h : q.fragment = p.fragment
      · have hsame : (q.mapText change).fragment = (p.mapText change).fragment :=
          congrArg change h
        rw [upsert, if_pos h, List.map_cons, List.map_cons, upsert, if_pos hsame]
      · have hother : ¬ (q.mapText change).fragment = (p.mapText change).fragment :=
          fun he => h (hkeys q List.mem_cons_self he)
        rw [upsert, if_neg h, List.map_cons, List.map_cons, upsert, if_neg hother, hrest]

theorem mapTexts_addClause {clause : Clause} {c : Condition}
    (hkeys : ∀ group p, clause = .predicate group p → ∀ q ∈ c.predicates group,
      change q.fragment = change p.fragment → q.fragment = p.fragment) :
    (c.addClause clause).mapTexts change =
      (c.mapTexts change).addClause (clause.mapText change) := by
  rcases c with ⟨wheres, ors, orders, joins⟩
  cases clause with
  | predicate group p =>
      cases group with
      | and =>
          have hwheres : (upsert p wheres).map (Predicate.mapText change) =
              upsert (p.mapText change) (wheres.map (Predicate.mapText change)) :=
            map_mapText_upsert (hkeys .and p rfl)
          show Condition.mk ((upsert p wheres).map _) _ _ _ = _
          rw [hwheres]
          rfl
      | or =>
          have hors : (upsert p ors).map (Predicate.mapText change) =
              upsert (p.mapText change) (ors.map (Predicate.mapText change)) :=
            map_mapText_upsert (hkeys .or p rfl)
          show Condition.mk _ ((upsert p ors).map _) _ _ = _
          rw [hors]
          rfl
  | order term =>
      show Condition.mk _ _ ((orders ++ [term]).map change) _ = _
      rw [List.map_append]
      rfl
  | scope => rfl

/-- The scope of a join can be worked on before or after the change, if its text stays apart from
those of the other joins. -/
theorem mapScopes_updateScope {on : String} {work work' : Condition → Condition}
    (hfresh : (work empty).mapTexts change = work' empty) {joins : List JoinScope}
    (hons : ∀ s ∈ joins, change s.on = change on → s.on = on)
    (hwork : ∀ s ∈ joins, s.on = on →
      (work s.condition).mapTexts change = work' (s.condition.mapTexts change)) :
    mapScopes change (updateScope on work joins) =
      updateScope (change on) work' (mapScopes change joins) := by
  induction joins with
  | nil =>
      rw [updateScope, mapScopes, mapScopes, mapScope, hfresh]
      rfl
  | cons s rest ih =>
      have hrest := ih (fun s' hs' => hons s' (List.mem_cons_of_mem _ hs'))
        fun s' hs' => hwork s' (List.mem_cons_of_mem _ hs')
      have hs := hons s List.mem_cons_self
      have hinner := hwork s List.mem_cons_self
      rcases s with ⟨own, scope⟩
      by_cases h : own = on
      · rw [updateScope, if_pos h, mapScopes, mapScope, hinner h, mapScopes, mapScope, updateScope,
          if_pos (congrArg change h)]
      · have hother : ¬ change own = change on := fun he => h (hs he)
        rw [updateScope, if_neg h, mapScopes, mapScope, mapScopes, mapScope, updateScope,
          if_neg hother, hrest]

/-- **A registration can be made before or after the change**, if the change keeps its joins apart
from those that are open and its predicate from those in its scope and group. -/
theorem mapTexts_register {clause : Clause} : ∀ {path : List String} {c : Condition},
    (∀ path' scope, c.HasScope path' scope → ∀ s ∈ scope.joins, ∀ on ∈ path,
      change s.on = change on → s.on = on) →
    (∀ scope, c.HasScope path scope → ∀ group p, clause = .predicate group p →
      ∀ q ∈ scope.predicates group, change q.fragment = change p.fragment →
        q.fragment = p.fragment) →
    (c.register ⟨path, clause⟩).mapTexts change =
      (c.mapTexts change).register (Registration.mapTexts change ⟨path, clause⟩) := by
  intro path
  induction path with
  | nil =>
      intro c _ hkeys
      exact mapTexts_addClause (hkeys c (.root c))
  | cons on path ih =>
      intro c hons hkeys
      have hfresh : (register empty ⟨path, clause⟩).mapTexts change =
          register empty (Registration.mapTexts change ⟨path, clause⟩) := by
        refine ih ?_ ?_
        · intro path' scope hscope s hs
          rw [(hasScope_empty hscope).2] at hs
          cases hs
        · intro scope hscope group p _ q hq
          rw [(hasScope_empty hscope).2] at hq
          cases group <;> cases hq
      have hjoins : mapScopes change (updateScope on (inScope (addClause clause) path) c.joins) =
          updateScope (change on)
            (inScope (addClause (clause.mapText change)) (path.map change))
            (mapScopes change c.joins) := by
        refine mapScopes_updateScope hfresh ?_ ?_
        · intro s hs
          exact hons [] c (.root c) s hs on List.mem_cons_self
        · rintro s hs rfl
          refine ih ?_ ?_
          · intro path' scope hscope s' hs' on' hon'
            exact hons _ scope (.join hs hscope) s' hs' on' (List.mem_cons_of_mem _ hon')
          · intro scope hscope
            exact hkeys scope (.join hs hscope)
      rcases c with ⟨wheres, ors, orders, joins⟩
      show Condition.mk _ _ _ _ = _
      rw [hjoins]
      rfl

/-! ## A run -/

/-- **A run can be made before or after the change**, if the change keeps apart the joins that are
gone through and, for every scope and group, the predicates that are registered there. -/
theorem mapTexts_registerAll {rs : List Registration}
    (hons : ∀ r ∈ rs, ∀ r' ∈ rs, ∀ on ∈ r.path, ∀ on' ∈ r'.path, change on = change on' → on = on')
    (hkeys : ∀ path group p q, ⟨path, .predicate group p⟩ ∈ rs → ⟨path, .predicate group q⟩ ∈ rs →
      change p.fragment = change q.fragment → p.fragment = q.fragment) :
    (empty.registerAll rs).mapTexts change =
      empty.registerAll (rs.map (Registration.mapTexts change)) := by
  induction rs using List.reverseRecOn with
  | nil => rfl
  | append_singleton rs r ih =>
      have hold : ∀ {r' : Registration}, r' ∈ rs → r' ∈ rs ++ [r] := List.mem_append_left [r]
      have hnew : r ∈ rs ++ [r] := List.mem_append_right rs (List.mem_singleton.mpr rfl)
      have hrest := ih (fun a ha b hb => hons a (hold ha) b (hold hb))
        fun path group p q hp hq => hkeys path group p q (hold hp) (hold hq)
      have hstep : ((empty.registerAll rs).register r).mapTexts change =
          ((empty.registerAll rs).mapTexts change).register (r.mapTexts change) := by
        refine mapTexts_register ?_ ?_
        · intro path scope hscope s hs on hon
          rcases exists_lead_of_hasScope (hscope.snoc hs) with hroot | ⟨a, ha, hlead⟩
          · exact absurd hroot (List.append_ne_nil_of_right_ne_nil _ (List.cons_ne_nil _ _))
          · exact hons a (hold ha) r hnew s.on
              (hlead.subset (List.mem_append_right _ List.mem_cons_self)) on hon
        · intro scope hscope group p hp q hq
          have hqs := mem_of_mem_clauses hscope (predicate_mem_clauses.mpr hq)
          refine hkeys r.path group q p (hold hqs) ?_
          rw [← hp]
          exact hnew
      rw [hrest] at hstep
      have hlast : empty.registerAll (rs ++ [r]) = (empty.registerAll rs).register r :=
        List.foldl_append
      rw [hlast, hstep, List.map_append, registerAll, registerAll, List.foldl_append]
      rfl

end Condition

end SqlFilter
