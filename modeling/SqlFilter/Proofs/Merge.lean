import SqlFilter.Proofs.Keyed
import SqlFilter.Proofs.Trace

/-!
# Resolving into a condition, and merging a fresh one

A filter can be resolved into a condition that holds something already, or into an empty one
whose outcome is then merged.  `Condition.merge` says what merging is, list by list and scope by
scope, without a word about filters; the main result says that the two ways agree, on the error
as well as on what was registered before it.

The step behind it is `Condition.merge_register`: registering after a merge is the same as
registering before it, on the side that is merged in.  That side has to be keyed, for with one
text twice the last of the two would win in the merge and the first in the registration.  What
comes out of a walk is keyed, and the condition that was there may be anything.

## Main results

* `Condition.merge`.
* `Condition.merge_registerAll`: a run after a merge.
* `Compiler.resolve_eq_merge`: resolving into a condition is resolving and merging.
-/

namespace SqlFilter

namespace Condition

/-! ## Merging -/

/-- Puts predicates into a list one by one: a text that is there gets the new parameters in its
old place, and a new one comes last. -/
def upsertAll (ps into : List Predicate) : List Predicate :=
  ps.foldl (fun into p => upsert p into) into

mutual
/-- A condition with another one merged into it. -/
def merge (c : Condition) : Condition → Condition
  | ⟨wheres, ors, orders, joins⟩ =>
    ⟨upsertAll wheres c.wheres, upsertAll ors c.ors, c.orders ++ orders,
      mergeScopes c.joins joins⟩

/-- Scopes with others merged into them, in order. -/
def mergeScopes (into : List JoinScope) : List JoinScope → List JoinScope
  | [] => into
  | s :: rest => mergeScopes (mergeScope into s) rest

/-- Scopes with one more: merged into the one of the same join if that is open, else put at the
end. -/
def mergeScope (into : List JoinScope) : JoinScope → List JoinScope
  | ⟨on, condition⟩ =>
    if on ∈ into.map JoinScope.on then updateScope on (fun s => s.merge condition) into
    else into ++ [⟨on, condition⟩]
end

@[simp] theorem merge_empty (c : Condition) : c.merge empty = c := by
  cases c
  simp [merge, empty, upsertAll, mergeScopes]

/-! ## Registering a predicate and merging -/

/-- Registering a text twice leaves the second registration. -/
theorem upsert_upsert_self {p q : Predicate} (h : q.fragment = p.fragment)
    (ps : List Predicate) : upsert p (upsert q ps) = upsert p ps := by
  induction ps with
  | nil => simp [upsert, h]
  | cons r rest ih =>
      by_cases hr : r.fragment = p.fragment
      · simp [upsert, h, hr]
      · simp [upsert, h, hr, ih]

/-- Two texts can be registered in either order, if one of them has its place already. -/
theorem upsert_comm {p q : Predicate} (hne : q.fragment ≠ p.fragment) {ps : List Predicate}
    (hmem : p.fragment ∈ ps.map Predicate.fragment) :
    upsert p (upsert q ps) = upsert q (upsert p ps) := by
  induction ps with
  | nil => simp at hmem
  | cons r rest ih =>
      by_cases hp : r.fragment = p.fragment
      · have hq : ¬ p.fragment = q.fragment := fun he => hne he.symm
        simp [upsert, hp, hq]
      · have htail : p.fragment ∈ rest.map Predicate.fragment := by
          rw [List.map_cons, List.mem_cons] at hmem
          exact hmem.resolve_left fun he => hp he.symm
        by_cases hq : r.fragment = q.fragment
        · simp [upsert, hq, hne]
        · simp [upsert, hp, hq, ih htail]

/-- A text that is not among those put in afterwards can be registered before them. -/
theorem upsertAll_upsert_of_notMem {p : Predicate} (ps : List Predicate)
    (hfresh : p.fragment ∉ ps.map Predicate.fragment) :
    ∀ into : List Predicate, p.fragment ∈ into.map Predicate.fragment →
      upsertAll ps (upsert p into) = upsert p (upsertAll ps into) := by
  induction ps with
  | nil => intro into _; rfl
  | cons q rest ih =>
      intro into hmem
      rw [List.map_cons, List.mem_cons, not_or] at hfresh
      have hq : q.fragment ≠ p.fragment := fun he => hfresh.1 he.symm
      have hstays : p.fragment ∈ (upsert q into).map Predicate.fragment := by
        rw [fragments_upsert]
        split
        · exact hmem
        · exact List.mem_append_left _ hmem
      show upsertAll rest (upsert q (upsert p into)) = upsert p (upsertAll rest (upsert q into))
      rw [← upsert_comm hq hmem]
      exact ih hfresh.2 (upsert q into) hstays

theorem mem_fragments_upsert (p : Predicate) (ps : List Predicate) :
    p.fragment ∈ (upsert p ps).map Predicate.fragment := by
  rw [fragments_upsert]
  split
  · assumption
  · exact List.mem_append_right _ (List.mem_singleton.mpr rfl)

/-- Registering into the list that is put in is the same as registering afterwards. -/
theorem upsertAll_upsert (p : Predicate) {ps : List Predicate} (hps : KeyedPredicates ps) :
    ∀ into : List Predicate, upsertAll (upsert p ps) into = upsert p (upsertAll ps into) := by
  induction ps with
  | nil => intro into; rfl
  | cons q rest ih =>
      intro into
      obtain ⟨hq, hrest⟩ := List.nodup_cons.mp hps
      by_cases h : q.fragment = p.fragment
      · have hfresh : p.fragment ∉ rest.map Predicate.fragment := h ▸ hq
        have hmem : p.fragment ∈ (upsert q into).map Predicate.fragment :=
          h ▸ mem_fragments_upsert q into
        rw [upsert, if_pos h]
        show upsertAll rest (upsert p into) = upsert p (upsertAll rest (upsert q into))
        rw [← upsertAll_upsert_of_notMem rest hfresh (upsert q into) hmem,
          upsert_upsert_self h]
      · rw [upsert, if_neg h]
        exact ih hrest (upsert q into)

theorem mem_fragments_upsertAll {text : String} (ps : List Predicate) : ∀ into : List Predicate,
    text ∈ (upsertAll ps into).map Predicate.fragment ↔
      text ∈ into.map Predicate.fragment ∨ text ∈ ps.map Predicate.fragment := by
  induction ps with
  | nil => intro into; simp [upsertAll]
  | cons p rest ih =>
      intro into
      have hput : text ∈ (upsert p into).map Predicate.fragment ↔
          text ∈ into.map Predicate.fragment ∨ text = p.fragment := by
        rw [fragments_upsert]
        split
        · rename_i hmem
          constructor
          · exact .inl
          · rintro (h | rfl)
            · exact h
            · exact hmem
        · rw [List.mem_append, List.mem_singleton]
      show text ∈ (upsertAll rest (upsert p into)).map Predicate.fragment ↔ _
      rw [ih, hput, List.map_cons, List.mem_cons, or_assoc]

theorem KeyedPredicates.upsertAll (ps : List Predicate) : ∀ {into : List Predicate},
    KeyedPredicates into → KeyedPredicates (upsertAll ps into) := by
  induction ps with
  | nil => intro into h; exact h
  | cons p rest ih =>
      intro into h
      exact ih (h.upsert p)

/-! ## Changing a scope and merging -/

section Scopes

variable {on : String} {change : Condition → Condition}

/-- `change` may be done before or after a merge. -/
def CommutesWithMerge (change : Condition → Condition) : Prop :=
  ∀ c n : Condition, n.Keyed → change (c.merge n) = c.merge (change n)

theorem updateScope_of_mem_comm {on' : String} (hne : on' ≠ on) (f g : Condition → Condition)
    {joins : List JoinScope} (hmem : on ∈ joins.map JoinScope.on) :
    updateScope on f (updateScope on' g joins) = updateScope on' g (updateScope on f joins) := by
  induction joins with
  | nil => simp at hmem
  | cons s rest ih =>
      by_cases hs : s.on = on
      · have hs' : ¬ on = on' := fun he => hne he.symm
        simp [updateScope, hs, hs']
      · have htail : on ∈ rest.map JoinScope.on := by
          rw [List.map_cons, List.mem_cons] at hmem
          exact hmem.resolve_left fun he => hs he.symm
        by_cases hs' : s.on = on'
        · simp [updateScope, hs', hne]
        · simp [updateScope, hs, hs', ih htail]

theorem updateScope_append_of_mem (f : Condition → Condition) {joins : List JoinScope}
    (hmem : on ∈ joins.map JoinScope.on) (more : List JoinScope) :
    updateScope on f (joins ++ more) = updateScope on f joins ++ more := by
  induction joins with
  | nil => simp at hmem
  | cons s rest ih =>
      by_cases hs : s.on = on
      · simp [updateScope, hs]
      · have htail : on ∈ rest.map JoinScope.on := by
          rw [List.map_cons, List.mem_cons] at hmem
          exact hmem.resolve_left fun he => hs he.symm
        simp [updateScope, hs, ih htail]

theorem mem_ons_mergeScope (into : List JoinScope) (s : JoinScope) {on : String}
    (hmem : on ∈ into.map JoinScope.on ∨ on = s.on) :
    on ∈ (mergeScope into s).map JoinScope.on := by
  rcases s with ⟨son, scope⟩
  rw [mergeScope]
  split
  · rename_i hson
    rw [ons_updateScope, if_pos hson]
    rcases hmem with hmem | rfl
    · exact hmem
    · exact hson
  · rw [List.map_append]
    rcases hmem with hmem | rfl
    · exact List.mem_append_left _ hmem
    · exact List.mem_append_right _ (List.mem_singleton.mpr rfl)

/-- Merging a scope whose join is another one leaves an open scope to be changed as before. -/
theorem updateScope_mergeScope_of_ne {s : JoinScope} (hne : s.on ≠ on) {into : List JoinScope}
    (hmem : on ∈ into.map JoinScope.on) :
    updateScope on change (mergeScope into s) = mergeScope (updateScope on change into) s := by
  rcases s with ⟨son, scope⟩
  have hons : (updateScope on change into).map JoinScope.on = into.map JoinScope.on := by
    rw [ons_updateScope, if_pos hmem]
  rw [mergeScope, mergeScope, hons]
  split
  · exact updateScope_of_mem_comm hne _ _ hmem
  · exact updateScope_append_of_mem change hmem _

theorem updateScope_mergeScopes_of_notMem (scopes : List JoinScope)
    (hfresh : on ∉ scopes.map JoinScope.on) :
    ∀ into : List JoinScope, on ∈ into.map JoinScope.on →
      updateScope on change (mergeScopes into scopes) =
        mergeScopes (updateScope on change into) scopes := by
  induction scopes with
  | nil => intro into _; rfl
  | cons s rest ih =>
      intro into hmem
      rw [List.map_cons, List.mem_cons, not_or] at hfresh
      have hne : s.on ≠ on := fun he => hfresh.1 he.symm
      rw [mergeScopes, mergeScopes, ← updateScope_mergeScope_of_ne hne hmem]
      exact ih hfresh.2 _ (mem_ons_mergeScope into s (.inl hmem))

/-- Changing a scope and merging it is merging it and changing the outcome. -/
theorem updateScope_mergeScope_self (hchange : CommutesWithMerge change) (into : List JoinScope)
    {scope : Condition} (hscope : scope.Keyed) :
    updateScope on change (mergeScope into ⟨on, scope⟩) =
      mergeScope into ⟨on, change scope⟩ := by
  rw [mergeScope, mergeScope]
  split
  · rw [updateScope_updateScope]
    have hmerge : (fun s : Condition => change (s.merge scope)) =
        fun s : Condition => s.merge (change scope) :=
      funext fun s => hchange s scope hscope
    rw [hmerge]
  · rename_i hmem
    induction into with
    | nil => simp [updateScope]
    | cons s rest ih =>
        rw [List.map_cons, List.mem_cons, not_or] at hmem
        have hne : ¬ s.on = on := fun he => hmem.1 he.symm
        rw [List.cons_append, updateScope, if_neg hne, ih hmem.2, List.cons_append]

/-- Changing a scope of the side that is merged in is the same as changing it after the merge. -/
theorem mergeScopes_updateScope (hchange : CommutesWithMerge change) {scopes : List JoinScope}
    (hons : (scopes.map JoinScope.on).Nodup) (hscopes : KeyedScopes scopes) :
    ∀ into : List JoinScope,
      updateScope on change (mergeScopes into scopes) =
        mergeScopes into (updateScope on change scopes) := by
  induction scopes with
  | nil =>
      intro into
      have hmerge : (fun s : Condition => s.merge (change empty)) = change := by
        funext s
        rw [← hchange s empty keyed_empty, merge_empty]
      rw [updateScope, mergeScopes, mergeScopes, mergeScope, mergeScopes, hmerge]
      split
      · rfl
      · rename_i hmem
        exact updateScope_fresh on change into hmem
  | cons s rest ih =>
      intro into
      rcases s with ⟨son, scope⟩
      obtain ⟨hs, hrest⟩ := List.nodup_cons.mp hons
      obtain ⟨hscope, hscopesRest⟩ := hscopes
      by_cases h : son = on
      · subst h
        rw [updateScope, if_pos rfl, mergeScopes, mergeScopes,
          ← updateScope_mergeScope_self hchange into hscope]
        exact updateScope_mergeScopes_of_notMem rest hs _ (mem_ons_mergeScope into _ (.inr rfl))
      · rw [updateScope, if_neg h]
        exact ih hrest hscopesRest (mergeScope into ⟨son, scope⟩)

end Scopes

/-! ## Registering and merging -/

theorem addClause_commutesWithMerge (clause : Clause) :
    CommutesWithMerge (addClause clause) := by
  intro c n hn
  rcases n with ⟨wheres, ors, orders, joins⟩
  obtain ⟨hwheres, hors, -, -⟩ := hn
  cases clause with
  | predicate group p =>
      cases group with
      | and => simp [addClause, addPredicate, merge, upsertAll_upsert p hwheres]
      | or => simp [addClause, addPredicate, merge, upsertAll_upsert p hors]
  | order term => simp [addClause, addOrder, merge]
  | scope => rfl

theorem inScope_commutesWithMerge {change : Condition → Condition}
    (hchange : CommutesWithMerge change) (path : List String) :
    CommutesWithMerge (inScope change path) := by
  induction path with
  | nil => exact hchange
  | cons on path ih =>
      intro c n hn
      rcases n with ⟨wheres, ors, orders, joins⟩
      obtain ⟨-, -, hons, hscopes⟩ := hn
      simp only [inScope, merge, mergeScopes_updateScope ih hons hscopes c.joins]

/-- Registering after a merge is registering before it, on the side that is merged in. -/
theorem merge_register (r : Registration) (c : Condition) {n : Condition} (hn : n.Keyed) :
    (c.merge n).register r = c.merge (n.register r) :=
  inScope_commutesWithMerge (addClause_commutesWithMerge r.clause) r.path c n hn

/-- A run after a merge is the same run before it. -/
theorem merge_registerAll (rs : List Registration) (c : Condition) :
    ∀ {n : Condition}, n.Keyed → (c.merge n).registerAll rs = c.merge (n.registerAll rs) := by
  induction rs with
  | nil => intro n _; rfl
  | cons r rest ih =>
      intro n hn
      have hrest := ih (hn.register r)
      rw [← merge_register r c hn] at hrest
      exact hrest

end Condition

/-! ## Resolving -/

/-- Carrying out a trace on a condition is carrying it out on the empty one and merging. -/
theorem Trace.run_eq_merge (t : Trace) (condition : Condition) :
    t.run condition = ⟨condition.merge (t.run .empty).condition, (t.run .empty).error⟩ := by
  have h := Condition.merge_registerAll t.steps condition Condition.keyed_empty
  rw [Condition.merge_empty] at h
  simp only [Trace.run, h]

/-- **Resolving into a condition is resolving into an empty one and merging**, with the same
error, also if the walk stops half way.  The condition that was there may hold one join twice;
the first one is then the one that both ways go on with. -/
theorem Compiler.resolve_eq_merge (c : Compiler) (f : Filter) (condition : Condition)
    (parent : String) :
    c.resolve f condition parent =
      ⟨condition.merge (c.resolve f .empty parent).condition,
        (c.resolve f .empty parent).error⟩ := by
  rw [resolve_eq_run, resolve_eq_run]
  exact (c.trace 0 parent f).run_eq_merge condition

end SqlFilter
