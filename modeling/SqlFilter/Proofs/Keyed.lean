import SqlFilter.Condition
import Mathlib.Data.List.Nodup

/-!
# Conditions are keyed by their texts

Within a scope no predicate text occurs twice among those that must hold, nor among the
alternatives, and no join is open twice.  Registering keeps this: a text that is there is
replaced in its place, and only a new one is put at the end.

## Main results

* `Condition.Keyed`: the invariant, in a scope and in all scopes below it.
* `Condition.fragments_upsert`, `Condition.ons_updateScope`: what the two keyed insertions do to
  the keys.
* `Condition.Keyed.register`, `Condition.keyed_registerAll_empty`: a step, and a whole run.
-/

namespace SqlFilter

namespace Condition

/-! ## The invariant -/

/-- No two predicates of the list have the same text. -/
def KeyedPredicates (ps : List Predicate) : Prop := (ps.map Predicate.fragment).Nodup

mutual
/-- The texts of every list are pairwise distinct, in this scope and in those below it. -/
def Keyed : Condition → Prop
  | ⟨wheres, ors, _, joins⟩ =>
    KeyedPredicates wheres ∧ KeyedPredicates ors ∧ (joins.map JoinScope.on).Nodup ∧
      KeyedScopes joins

/-- Every scope of the list is keyed. -/
def KeyedScopes : List JoinScope → Prop
  | [] => True
  | s :: rest => KeyedScope s ∧ KeyedScopes rest

/-- The condition of the scope is keyed. -/
def KeyedScope : JoinScope → Prop
  | ⟨_, condition⟩ => condition.Keyed
end

theorem keyed_iff (c : Condition) :
    c.Keyed ↔ KeyedPredicates c.wheres ∧ KeyedPredicates c.ors ∧
      (c.joins.map JoinScope.on).Nodup ∧ KeyedScopes c.joins := by
  rcases c with ⟨wheres, ors, orders, joins⟩
  rfl

theorem keyed_empty : Keyed empty :=
  ⟨List.nodup_nil, List.nodup_nil, List.nodup_nil, trivial⟩

/-! ## Keys after an insertion -/

theorem upsert_fresh (p : Predicate) (ps : List Predicate)
    (h : p.fragment ∉ ps.map Predicate.fragment) : upsert p ps = ps ++ [p] := by
  induction ps with
  | nil => rfl
  | cons q qs ih =>
      simp only [List.map_cons, List.mem_cons, not_or] at h
      have hne : ¬ q.fragment = p.fragment := fun he => h.1 he.symm
      rw [upsert, if_neg hne, ih h.2, List.cons_append]

/-- Keys with one more, which is put at the end if it is new, are distinct if they were. -/
private theorem nodup_insertKey (key : String) {keys : List String} (h : keys.Nodup) :
    (if key ∈ keys then keys else keys ++ [key]).Nodup := by
  split
  · exact h
  · rename_i hmem
    refine List.nodup_append.mpr ⟨h, List.nodup_singleton _, ?_⟩
    intro a ha b hb hab
    rw [List.mem_singleton] at hb
    exact hmem (hb ▸ hab ▸ ha)

/-- A text that is there stays in its place, and a new one comes last. -/
theorem fragments_upsert (p : Predicate) (ps : List Predicate) :
    (upsert p ps).map Predicate.fragment =
      if p.fragment ∈ ps.map Predicate.fragment then ps.map Predicate.fragment
      else ps.map Predicate.fragment ++ [p.fragment] := by
  by_cases hmem : p.fragment ∈ ps.map Predicate.fragment
  · rw [if_pos hmem]
    induction ps with
    | nil => simp at hmem
    | cons q qs ih =>
        by_cases hq : q.fragment = p.fragment
        · simp [upsert, hq]
        · have htail : p.fragment ∈ qs.map Predicate.fragment := by
            simp only [List.map_cons, List.mem_cons] at hmem
            exact hmem.resolve_left fun he => hq he.symm
          rw [upsert, if_neg hq, List.map_cons, List.map_cons, ih htail]
  · rw [if_neg hmem, upsert_fresh p ps hmem, List.map_append]
    rfl

theorem KeyedPredicates.upsert (p : Predicate) {ps : List Predicate} (h : KeyedPredicates ps) :
    KeyedPredicates (upsert p ps) := by
  unfold KeyedPredicates at h ⊢
  rw [fragments_upsert]
  exact nodup_insertKey p.fragment h

theorem updateScope_fresh (on : String) (change : Condition → Condition) (joins : List JoinScope)
    (h : on ∉ joins.map JoinScope.on) :
    updateScope on change joins = joins ++ [⟨on, change empty⟩] := by
  induction joins with
  | nil => rfl
  | cons s rest ih =>
      simp only [List.map_cons, List.mem_cons, not_or] at h
      have hne : ¬ s.on = on := fun he => h.1 he.symm
      rw [updateScope, if_neg hne, ih h.2, List.cons_append]

/-- An open join stays in its place, and a new one comes last. -/
theorem ons_updateScope (on : String) (change : Condition → Condition) (joins : List JoinScope) :
    (updateScope on change joins).map JoinScope.on =
      if on ∈ joins.map JoinScope.on then joins.map JoinScope.on
      else joins.map JoinScope.on ++ [on] := by
  by_cases hmem : on ∈ joins.map JoinScope.on
  · rw [if_pos hmem]
    induction joins with
    | nil => simp at hmem
    | cons s rest ih =>
        by_cases hs : s.on = on
        · simp [updateScope, hs]
        · have htail : on ∈ rest.map JoinScope.on := by
            simp only [List.map_cons, List.mem_cons] at hmem
            exact hmem.resolve_left fun he => hs he.symm
          rw [updateScope, if_neg hs, List.map_cons, List.map_cons, ih htail]
  · rw [if_neg hmem, updateScope_fresh on change joins hmem, List.map_append]
    rfl

theorem nodup_ons_updateScope (on : String) (change : Condition → Condition)
    {joins : List JoinScope} (h : (joins.map JoinScope.on).Nodup) :
    ((updateScope on change joins).map JoinScope.on).Nodup := by
  rw [ons_updateScope]
  exact nodup_insertKey on h

theorem KeyedScopes.updateScope (on : String) (change : Condition → Condition)
    (hchange : ∀ c : Condition, c.Keyed → (change c).Keyed) {joins : List JoinScope}
    (h : KeyedScopes joins) : KeyedScopes (updateScope on change joins) := by
  induction joins with
  | nil => exact ⟨hchange empty keyed_empty, trivial⟩
  | cons s rest ih =>
      rcases s with ⟨son, scope⟩
      obtain ⟨hs, hrest⟩ := h
      by_cases hon : son = on
      · rw [Condition.updateScope, if_pos hon]
        exact ⟨hchange scope hs, hrest⟩
      · rw [Condition.updateScope, if_neg hon]
        exact ⟨hs, ih hrest⟩

/-! ## Registering keeps the keys distinct -/

theorem Keyed.addClause (clause : Clause) {c : Condition} (h : c.Keyed) :
    (c.addClause clause).Keyed := by
  rw [keyed_iff] at h
  obtain ⟨hwheres, hors, hons, hscopes⟩ := h
  cases clause with
  | predicate group p =>
      cases group with
      | and => exact ⟨hwheres.upsert p, hors, hons, hscopes⟩
      | or => exact ⟨hwheres, hors.upsert p, hons, hscopes⟩
  | order term => exact ⟨hwheres, hors, hons, hscopes⟩
  | scope => exact (keyed_iff c).mpr ⟨hwheres, hors, hons, hscopes⟩

theorem Keyed.inScope (change : Condition → Condition)
    (hchange : ∀ c : Condition, c.Keyed → (change c).Keyed) (path : List String) :
    ∀ c : Condition, c.Keyed → (inScope change path c).Keyed := by
  induction path with
  | nil => exact hchange
  | cons on path ih =>
      intro c h
      rw [keyed_iff] at h
      obtain ⟨hwheres, hors, hons, hscopes⟩ := h
      exact ⟨hwheres, hors, nodup_ons_updateScope on _ hons, hscopes.updateScope on _ ih⟩

/-- One registration keeps a condition keyed. -/
theorem Keyed.register (r : Registration) {c : Condition} (h : c.Keyed) : (c.register r).Keyed :=
  Keyed.inScope (Condition.addClause r.clause) (fun _ hc => hc.addClause r.clause) r.path c h

/-- Any number of registrations keep a condition keyed. -/
theorem Keyed.registerAll (rs : List Registration) :
    ∀ {c : Condition}, c.Keyed → (c.registerAll rs).Keyed := by
  induction rs with
  | nil => intro c h; exact h
  | cons r rest ih =>
      intro c h
      exact ih (h.register r)

theorem keyed_registerAll_empty (rs : List Registration) : (empty.registerAll rs).Keyed :=
  keyed_empty.registerAll rs

end Condition

end SqlFilter
