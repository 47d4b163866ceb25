import SqlFilter.Condition

/-!
# What the scopes of a condition hold

`Condition.HasScope` says which scope stands at the end of a path of joins, and
`Condition.clauses` what is registered in one scope.  After any number of registrations each
clause in the scope of a path is one that was registered with that path, or one that was there
before; a clause is never carried from one scope to another.

## Main results

* `Condition.mem_scopes_iff`, `Condition.exists_hasScope_of_mem_flattenJoins`: the scopes of a
  statement are those that have a path.
* `Condition.mem_clauses_registerAll`, `Condition.hasScope_registerAll`: where clauses and scopes
  come from.
-/

namespace SqlFilter

namespace Condition

/-! ## Scopes and clauses -/

/-- The scope at the end of a path of joins. -/
inductive HasScope : Condition → List String → Condition → Prop
  | root (c : Condition) : HasScope c [] c
  | join {c t : Condition} {s : JoinScope} {path : List String} (mem : s ∈ c.joins)
      (inner : HasScope s.condition path t) : HasScope c (s.on :: path) t

/-- What is registered in this scope, the scopes below it apart. -/
def clauses (c : Condition) : List Clause :=
  c.wheres.map (Clause.predicate .and) ++ c.ors.map (Clause.predicate .or) ++
    c.orders.map Clause.order

theorem mem_clauses {c : Condition} {clause : Clause} :
    clause ∈ c.clauses ↔
      (∃ p ∈ c.wheres, clause = .predicate .and p) ∨ (∃ p ∈ c.ors, clause = .predicate .or p) ∨
        ∃ term ∈ c.orders, clause = .order term := by
  simp only [clauses, List.mem_append, List.mem_map, or_assoc, eq_comm]

/-- An open scope is no clause of the scope around it. -/
theorem scope_notMem_clauses (c : Condition) : Clause.scope ∉ c.clauses := by
  intro h
  rcases mem_clauses.mp h with ⟨_, _, h⟩ | ⟨_, _, h⟩ | ⟨_, _, h⟩ <;> cases h

theorem clauses_empty : clauses empty = [] := rfl

theorem hasScope_empty {path : List String} {t : Condition} (h : HasScope empty path t) :
    path = [] ∧ t = empty := by
  cases h with
  | root => exact ⟨rfl, rfl⟩
  | join mem inner => cases mem

/-- The scope of a join stands one join further down. -/
theorem HasScope.snoc {c t : Condition} {path : List String} (h : c.HasScope path t)
    {s : JoinScope} (hs : s ∈ t.joins) : c.HasScope (path ++ [s.on]) s.condition := by
  induction h with
  | root c => exact .join hs (.root _)
  | join mem inner ih => exact .join mem (ih hs)

mutual
/-- Every join scope stands at the end of a path that its join ends. -/
theorem exists_hasScope_of_mem_flattenJoins (s : JoinScope) :
    ∀ c : Condition, s ∈ c.flattenJoins → ∃ path, c.HasScope (path ++ [s.on]) s.condition
  | ⟨wheres, ors, orders, joins⟩, h => by
      rw [flattenJoins] at h
      obtain ⟨j, hj, rfl | ⟨path, hpath⟩⟩ := exists_hasScope_of_mem_flattenScopes s joins h
      · exact ⟨[], .join hj (.root _)⟩
      · exact ⟨j.on :: path, .join hj hpath⟩

theorem exists_hasScope_of_mem_flattenScopes (s : JoinScope) :
    ∀ joins : List JoinScope, s ∈ flattenScopes joins →
      ∃ j ∈ joins, s = j ∨ ∃ path, j.condition.HasScope (path ++ [s.on]) s.condition
  | [], h => by simp [flattenScopes] at h
  | j :: rest, h => by
      rw [flattenScopes, List.mem_cons, List.mem_append] at h
      rcases h with rfl | h | h
      · exact ⟨s, List.mem_cons_self, .inl rfl⟩
      · exact ⟨j, List.mem_cons_self, .inr (exists_hasScope_of_mem_flattenScope s j h)⟩
      · obtain ⟨k, hk, hs⟩ := exists_hasScope_of_mem_flattenScopes s rest h
        exact ⟨k, List.mem_cons_of_mem _ hk, hs⟩

theorem exists_hasScope_of_mem_flattenScope (s : JoinScope) :
    ∀ j : JoinScope, s ∈ flattenScope j →
      ∃ path, j.condition.HasScope (path ++ [s.on]) s.condition
  | ⟨_, condition⟩, h => exists_hasScope_of_mem_flattenJoins s condition h
end

theorem exists_hasScope_of_mem_scopes {c t : Condition} (h : t ∈ c.scopes) :
    ∃ path, c.HasScope path t := by
  rw [scopes, List.mem_append, List.mem_map, List.mem_singleton] at h
  rcases h with ⟨s, hs, rfl⟩ | rfl
  · obtain ⟨path, hpath⟩ := exists_hasScope_of_mem_flattenJoins s c hs
    exact ⟨_, hpath⟩
  · exact ⟨[], .root _⟩

theorem mem_flattenScopes {s : JoinScope} {joins : List JoinScope} (h : s ∈ joins) :
    s ∈ flattenScopes joins ∧ ∀ j ∈ s.condition.flattenJoins, j ∈ flattenScopes joins := by
  induction joins with
  | nil => cases h
  | cons first rest ih =>
      rw [flattenScopes]
      rcases List.mem_cons.mp h with rfl | h
      · refine ⟨List.mem_cons_self, fun j hj => List.mem_cons_of_mem _ (List.mem_append_left _ ?_)⟩
        rcases s with ⟨on, condition⟩
        exact hj
      · obtain ⟨hself, hinside⟩ := ih h
        exact ⟨List.mem_cons_of_mem _ (List.mem_append_right _ hself),
          fun j hj => List.mem_cons_of_mem _ (List.mem_append_right _ (hinside j hj))⟩

theorem HasScope.mem_scopes {c t : Condition} {path : List String} (h : c.HasScope path t) :
    t ∈ c.scopes := by
  induction h with
  | root c => exact List.mem_append_right _ List.mem_cons_self
  | @join c t s path mem inner ih =>
      rcases c with ⟨wheres, ors, orders, joins⟩
      obtain ⟨hself, hinside⟩ := mem_flattenScopes mem
      refine List.mem_append_left _ (List.mem_map.mpr ?_)
      rw [scopes, List.mem_append, List.mem_map, List.mem_singleton] at ih
      rcases ih with ⟨j, hj, rfl⟩ | rfl
      · exact ⟨j, hinside j hj, rfl⟩
      · exact ⟨s, hself, rfl⟩

/-- A statement takes the clauses of the scopes that stand at the end of a path, and no others. -/
theorem mem_scopes_iff {c t : Condition} : t ∈ c.scopes ↔ ∃ path, c.HasScope path t :=
  ⟨exists_hasScope_of_mem_scopes, fun ⟨_, h⟩ => h.mem_scopes⟩

/-! ## After one registration -/

theorem mem_upsert {p q : Predicate} {ps : List Predicate} (h : q ∈ upsert p ps) :
    q = p ∨ q ∈ ps := by
  induction ps with
  | nil => exact .inl (List.mem_singleton.mp h)
  | cons r rest ih =>
      rw [upsert] at h
      split at h
      · rcases List.mem_cons.mp h with rfl | h
        · exact .inl rfl
        · exact .inr (List.mem_cons_of_mem _ h)
      · rcases List.mem_cons.mp h with rfl | h
        · exact .inr List.mem_cons_self
        · rcases ih h with rfl | h
          · exact .inl rfl
          · exact .inr (List.mem_cons_of_mem _ h)

theorem mem_clauses_addClause {clause added : Clause} {c : Condition}
    (h : clause ∈ (c.addClause added).clauses) : clause = added ∨ clause ∈ c.clauses := by
  cases added with
  | predicate group p =>
      cases group with
      | and =>
          rcases mem_clauses.mp h with ⟨q, hq, rfl⟩ | hrest
          · rcases mem_upsert hq with rfl | hq
            · exact .inl rfl
            · exact .inr (mem_clauses.mpr (.inl ⟨q, hq, rfl⟩))
          · exact .inr (mem_clauses.mpr (.inr hrest))
      | or =>
          rcases mem_clauses.mp h with hwheres | ⟨q, hq, rfl⟩ | horders
          · exact .inr (mem_clauses.mpr (.inl hwheres))
          · rcases mem_upsert hq with rfl | hq
            · exact .inl rfl
            · exact .inr (mem_clauses.mpr (.inr (.inl ⟨q, hq, rfl⟩)))
          · exact .inr (mem_clauses.mpr (.inr (.inr horders)))
  | order term =>
      rcases mem_clauses.mp h with hwheres | hors | ⟨t, ht, rfl⟩
      · exact .inr (mem_clauses.mpr (.inl hwheres))
      · exact .inr (mem_clauses.mpr (.inr (.inl hors)))
      · rcases List.mem_append.mp ht with ht | ht
        · exact .inr (mem_clauses.mpr (.inr (.inr ⟨t, ht, rfl⟩)))
        · exact .inl (by rw [List.mem_singleton.mp ht])
  | scope => exact .inr h

theorem joins_addClause (added : Clause) (c : Condition) : (c.addClause added).joins = c.joins := by
  cases added with
  | predicate group p => cases group <;> rfl
  | order term => rfl
  | scope => rfl

/-- A scope after a change: an old one, or the one that was changed. -/
theorem mem_updateScope {on : String} {change : Condition → Condition} {s : JoinScope}
    {joins : List JoinScope} (h : s ∈ updateScope on change joins) :
    s ∈ joins ∨ s.on = on ∧
      (s.condition = change empty ∨ ∃ old ∈ joins, old.on = on ∧ s.condition = change old.condition) := by
  induction joins with
  | nil =>
      rw [updateScope, List.mem_singleton] at h
      exact .inr ⟨h ▸ rfl, .inl (h ▸ rfl)⟩
  | cons j rest ih =>
      rw [updateScope] at h
      split at h
      · rename_i hon
        rcases List.mem_cons.mp h with rfl | h
        · exact .inr ⟨hon, .inr ⟨j, List.mem_cons_self, hon, rfl⟩⟩
        · exact .inl (List.mem_cons_of_mem _ h)
      · rcases List.mem_cons.mp h with rfl | h
        · exact .inl List.mem_cons_self
        · rcases ih h with h | ⟨hs, hnew | ⟨old, hold, hon, hcond⟩⟩
          · exact .inl (List.mem_cons_of_mem _ h)
          · exact .inr ⟨hs, .inl hnew⟩
          · exact .inr ⟨hs, .inr ⟨old, List.mem_cons_of_mem _ hold, hon, hcond⟩⟩

/-- Where a clause comes from after one registration. -/
theorem mem_clauses_register {added clause : Clause} : ∀ {target path : List String}
    {c t : Condition}, (c.register ⟨target, added⟩).HasScope path t → clause ∈ t.clauses →
      (∃ old, c.HasScope path old ∧ clause ∈ old.clauses) ∨ path = target ∧ clause = added := by
  intro target
  induction target with
  | nil =>
      intro path c t hscope hclause
      cases hscope with
      | root =>
          rcases mem_clauses_addClause hclause with rfl | hold
          · exact .inr ⟨rfl, rfl⟩
          · exact .inl ⟨c, .root c, hold⟩
      | join mem inner =>
          rw [register, inScope, joins_addClause] at mem
          exact .inl ⟨t, .join mem inner, hclause⟩
  | cons on target ih =>
      intro path c t hscope hclause
      cases hscope with
      | root => exact .inl ⟨c, .root c, hclause⟩
      | @join _ _ s path mem inner =>
          rcases mem_updateScope mem with hs | ⟨hon, hnew | ⟨old, hold, holdOn, hcond⟩⟩
          · exact .inl ⟨t, .join hs inner, hclause⟩
          · rw [hnew] at inner
            rcases ih inner hclause with ⟨u, hu, hmem⟩ | ⟨rfl, rfl⟩
            · rw [(hasScope_empty hu).2, clauses_empty] at hmem
              cases hmem
            · exact .inr ⟨by rw [hon], rfl⟩
          · rw [hcond] at inner
            rcases ih inner hclause with ⟨u, hu, hmem⟩ | ⟨rfl, rfl⟩
            · exact .inl ⟨u, by rw [hon, ← holdOn]; exact .join hold hu, hmem⟩
            · exact .inr ⟨by rw [hon], rfl⟩

/-- Where a scope comes from after one registration: it was there, or it is on the way. -/
theorem hasScope_register {added : Clause} : ∀ {target path : List String} {c t : Condition},
    (c.register ⟨target, added⟩).HasScope path t →
      (∃ old, c.HasScope path old) ∨ path <+: target := by
  intro target
  induction target with
  | nil =>
      intro path c t hscope
      cases hscope with
      | root => exact .inl ⟨c, .root c⟩
      | join mem inner =>
          rw [register, inScope, joins_addClause] at mem
          exact .inl ⟨t, .join mem inner⟩
  | cons on target ih =>
      intro path c t hscope
      cases hscope with
      | root => exact .inl ⟨c, .root c⟩
      | @join _ _ s path mem inner =>
          rcases mem_updateScope mem with hs | ⟨hon, hnew | ⟨old, hold, holdOn, hcond⟩⟩
          · exact .inl ⟨t, .join hs inner⟩
          · rw [hnew] at inner
            rw [hon, List.cons_prefix_cons]
            rcases ih inner with ⟨u, hu⟩ | hlead
            · rw [(hasScope_empty hu).1]
              exact .inr ⟨rfl, List.nil_prefix⟩
            · exact .inr ⟨rfl, hlead⟩
          · rw [hcond] at inner
            rw [hon, List.cons_prefix_cons]
            rcases ih inner with ⟨u, hu⟩ | hlead
            · exact .inl ⟨u, by rw [← holdOn]; exact .join hold hu⟩
            · exact .inr ⟨rfl, hlead⟩

/-! ## After a run -/

/-- Every clause of a scope was there before the run, or was registered for that scope. -/
theorem mem_clauses_registerAll {path : List String} {t : Condition} {clause : Clause}
    (rs : List Registration) : ∀ {c : Condition}, (c.registerAll rs).HasScope path t →
      clause ∈ t.clauses →
        (∃ old, c.HasScope path old ∧ clause ∈ old.clauses) ∨ ⟨path, clause⟩ ∈ rs := by
  induction rs with
  | nil =>
      intro c hscope hclause
      exact .inl ⟨t, hscope, hclause⟩
  | cons r rest ih =>
      intro c hscope hclause
      rcases ih hscope hclause with ⟨u, hu, hmem⟩ | hmem
      · rcases mem_clauses_register hu hmem with hold | ⟨rfl, rfl⟩
        · exact .inl hold
        · exact .inr List.mem_cons_self
      · exact .inr (List.mem_cons_of_mem _ hmem)

/-- Every scope was there before the run, or is on the way to a registration. -/
theorem hasScope_registerAll {path : List String} {t : Condition} (rs : List Registration) :
    ∀ {c : Condition}, (c.registerAll rs).HasScope path t →
      (∃ old, c.HasScope path old) ∨ ∃ r ∈ rs, path <+: r.path := by
  induction rs generalizing t with
  | nil =>
      intro c hscope
      exact .inl ⟨t, hscope⟩
  | cons r rest ih =>
      intro c hscope
      rcases ih hscope with ⟨u, hu⟩ | ⟨r', hr', hlead⟩
      · rcases hasScope_register hu with hold | hlead
        · exact .inl hold
        · exact .inr ⟨r, List.mem_cons_self, hlead⟩
      · exact .inr ⟨r', List.mem_cons_of_mem _ hr', hlead⟩

section Registered

variable {rs : List Registration} {path : List String} {t : Condition}

/-- Every clause of a scope was registered for that scope, if there was nothing before the run. -/
theorem mem_of_mem_clauses {clause : Clause} (hscope : (empty.registerAll rs).HasScope path t)
    (hclause : clause ∈ t.clauses) : ⟨path, clause⟩ ∈ rs := by
  rcases mem_clauses_registerAll rs hscope hclause with ⟨old, hold, hmem⟩ | hmem
  · rw [(hasScope_empty hold).2, clauses_empty] at hmem
    cases hmem
  · exact hmem

/-- Every scope but the root is on the way to a registration, if there was nothing before the
run. -/
theorem exists_lead_of_hasScope (hscope : (empty.registerAll rs).HasScope path t) :
    path = [] ∨ ∃ r ∈ rs, path <+: r.path := by
  rcases hasScope_registerAll rs hscope with ⟨old, hold⟩ | hlead
  · exact .inl (hasScope_empty hold).1
  · exact .inr hlead

end Registered

end Condition

end SqlFilter
