import SqlFilter.Condition

/-!
# The join scopes of a condition in order

A join scope has an address: which join it is of the root, which join of that scope, and so on
down.  In the order of addresses a scope comes before those inside it, and of two joins of one
scope the one that was opened first comes first, with all that is inside it.  `ListsInOrder` says
of a list of scopes that it is all of them in this order.

## Main results

* `joinAt?`: the scope at an address. `ListsInOrder`: the scopes in the order of addresses.
* `Condition.listsInOrder_flattenJoins`: the order in which a statement takes its joins.
-/

namespace SqlFilter

/-! ## Addresses -/

/-- The join scope at an address below a list of joins. -/
def joinAt? : List Nat → List JoinScope → Option JoinScope
  | [], _ => none
  | i :: rest, joins =>
    match joins[i]?, rest with
    | none, _ => none
    | some s, [] => some s
    | some s, _ :: _ => joinAt? rest s.condition.joins

/-- The list holds the scope of every address below the joins, once for each address and in the
order of addresses. -/
def ListsInOrder (joins listed : List JoinScope) : Prop :=
  ∃ addresses : List (List Nat), addresses.Pairwise (· < ·) ∧
    (∀ a, a ∈ addresses ↔ (joinAt? a joins).isSome) ∧
      addresses.map (joinAt? · joins) = listed.map some

/-! ## Addresses below one join more -/

/-- The address of a scope behind one join more. -/
def pastOne : List Nat → List Nat
  | [] => []
  | i :: rest => (i + 1) :: rest

theorem joinAt?_nil (a : List Nat) : joinAt? a [] = none := by
  cases a <;> simp [joinAt?]

theorem joinAt?_first (s : JoinScope) (rest : List JoinScope) :
    joinAt? [0] (s :: rest) = some s := rfl

/-- Inside the first join. -/
theorem joinAt?_inside (s : JoinScope) (rest : List JoinScope) {a : List Nat} (ha : a ≠ []) :
    joinAt? (0 :: a) (s :: rest) = joinAt? a s.condition.joins := by
  cases a with
  | nil => exact absurd rfl ha
  | cons i tail => rfl

/-- Behind the first join. -/
theorem joinAt?_pastOne (s : JoinScope) (rest : List JoinScope) (a : List Nat) :
    joinAt? (pastOne a) (s :: rest) = joinAt? a rest := by
  cases a <;> simp [pastOne, joinAt?]

theorem pastOne_lt_pastOne {a b : List Nat} (h : a < b) : pastOne a < pastOne b := by
  cases a with
  | nil =>
      cases b with
      | nil => exact h
      | cons j tail => exact List.nil_lt_cons _ _
  | cons i rest =>
      cases b with
      | nil => cases h
      | cons j tail =>
          rw [pastOne, pastOne, List.cons_lt_cons_iff]
          rcases List.cons_lt_cons_iff.mp h with hindex | ⟨rfl, htail⟩
          · exact .inl (Nat.succ_lt_succ hindex)
          · exact .inr ⟨rfl, htail⟩

theorem ne_nil_of_isSome_joinAt? {a : List Nat} {joins : List JoinScope}
    (h : (joinAt? a joins).isSome) : a ≠ [] := by
  rintro rfl
  cases h

/-- The first join, what is inside it, and what comes behind it, in order. -/
theorem ListsInOrder.cons {s : JoinScope} {rest inside behind : List JoinScope}
    (hinside : ListsInOrder s.condition.joins inside) (hbehind : ListsInOrder rest behind) :
    ListsInOrder (s :: rest) (s :: (inside ++ behind)) := by
  obtain ⟨as, has, hmemAs, hmapAs⟩ := hinside
  obtain ⟨bs, hbs, hmemBs, hmapBs⟩ := hbehind
  have hneAs : ∀ a ∈ as, a ≠ [] := fun a ha => ne_nil_of_isSome_joinAt? ((hmemAs a).mp ha)
  have hneBs : ∀ b ∈ bs, b ≠ [] := fun b hb => ne_nil_of_isSome_joinAt? ((hmemBs b).mp hb)
  refine ⟨[0] :: (as.map (0 :: ·) ++ bs.map pastOne), ?_, ?_, ?_⟩
  · refine List.pairwise_cons.mpr ⟨?_, List.pairwise_append.mpr ⟨?_, ?_, ?_⟩⟩
    · intro c hc
      rcases List.mem_append.mp hc with hc | hc
      · obtain ⟨a, ha, rfl⟩ := List.mem_map.mp hc
        cases a with
        | nil => exact absurd rfl (hneAs _ ha)
        | cons i tail => simp
      · obtain ⟨b, hb, rfl⟩ := List.mem_map.mp hc
        cases b with
        | nil => exact absurd rfl (hneBs _ hb)
        | cons i tail => simp [pastOne, List.cons_lt_cons_iff]
    · rw [List.pairwise_map]
      exact has.imp fun h => List.cons_lt_cons_iff.mpr (.inr ⟨rfl, h⟩)
    · rw [List.pairwise_map]
      exact hbs.imp pastOne_lt_pastOne
    · intro c hc d hd
      obtain ⟨a, -, rfl⟩ := List.mem_map.mp hc
      obtain ⟨b, hb, rfl⟩ := List.mem_map.mp hd
      cases b with
      | nil => exact absurd rfl (hneBs _ hb)
      | cons i tail => exact List.cons_lt_cons_iff.mpr (.inl (Nat.succ_pos i))
  · intro c
    rw [List.mem_cons, List.mem_append, List.mem_map, List.mem_map]
    constructor
    · rintro (rfl | ⟨a, ha, rfl⟩ | ⟨b, hb, rfl⟩)
      · rfl
      · rw [joinAt?_inside s rest (hneAs a ha)]
        exact (hmemAs a).mp ha
      · rw [joinAt?_pastOne]
        exact (hmemBs b).mp hb
    · intro h
      cases c with
      | nil => cases h
      | cons i tail =>
          cases i with
          | zero =>
              by_cases htail : tail = []
              · exact .inl (by rw [htail])
              · rw [joinAt?_inside s rest htail] at h
                exact .inr (.inl ⟨tail, (hmemAs tail).mpr h, rfl⟩)
          | succ i =>
              have hpast : joinAt? (pastOne (i :: tail)) (s :: rest) = joinAt? (i :: tail) rest :=
                joinAt?_pastOne s rest (i :: tail)
              rw [pastOne] at hpast
              rw [hpast] at h
              exact .inr (.inr ⟨i :: tail, (hmemBs _).mpr h, rfl⟩)
  · have hfirst : (as.map (0 :: ·)).map (joinAt? · (s :: rest)) = inside.map some := by
      rw [← hmapAs, List.map_map]
      exact List.map_congr_left fun a ha => joinAt?_inside s rest (hneAs a ha)
    have hsecond : (bs.map pastOne).map (joinAt? · (s :: rest)) = behind.map some := by
      rw [← hmapBs, List.map_map]
      exact List.map_congr_left fun b _ => joinAt?_pastOne s rest b
    rw [List.map_cons, List.map_append, hfirst, hsecond, List.map_cons, List.map_append,
      joinAt?_first]

/-! ## The scopes of a statement -/

namespace Condition

mutual
/-- **The join scopes of a condition come in the order of their addresses.** -/
theorem listsInOrder_flattenJoins : ∀ c : Condition, ListsInOrder c.joins c.flattenJoins
  | ⟨_, _, _, joins⟩ => listsInOrder_flattenScopes joins

theorem listsInOrder_flattenScopes : ∀ joins : List JoinScope,
    ListsInOrder joins (flattenScopes joins)
  | [] => ⟨[], .nil, fun a => by simp [joinAt?_nil], rfl⟩
  | s :: rest => (listsInOrder_flattenScope s).cons (listsInOrder_flattenScopes rest)

theorem listsInOrder_flattenScope : ∀ s : JoinScope,
    ListsInOrder s.condition.joins (flattenScope s)
  | ⟨_, condition⟩ => listsInOrder_flattenJoins condition
end

end Condition

end SqlFilter
