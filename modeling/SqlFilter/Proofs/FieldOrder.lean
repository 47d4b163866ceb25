import SqlFilter.Proofs.Changes
import SqlFilter.Proofs.Offence
import SqlFilter.Proofs.Session

/-!
# The order of fields

The order in which a filter has its fields decides in which order things are registered, and with
it the order of predicates, sort terms and joins in a statement.  It means nothing else, as long as
no predicate takes the place of another one with the same text: put in another order, the fields
of a filter ask for the same.

Whatever is registered for a scope ends up there, so two runs of the same registrations have the
same scopes, and in each of them the same predicates, sort terms and joins in some order.  Fields
in another order are visited in another order, and each of them registers what it did before.

## Main results

* `Registration.key?`, `Unrepeated`: registrations of which none replaces another one.
* `Condition.SameUpToOrder`: conditions that ask for the same, scope by scope.
* `Condition.SameUpToOrder.registerAll`: a run in another order.
* `Compiler.fields_in_any_order`.
-/

namespace SqlFilter

/-! ## Registrations without repetition -/

/-- Where a predicate is put: the scope, the list and the text in it. -/
def Registration.key? (r : Registration) : Option (List String × Group × String) :=
  match r.clause with
  | .predicate group p => some (r.path, group, p.fragment)
  | _ => none

/-- No two of the registrations put the same text into the same list of the same scope. -/
def Unrepeated (rs : List Registration) : Prop := (rs.filterMap Registration.key?).Nodup

instance (rs : List Registration) : Decidable (Unrepeated rs) :=
  inferInstanceAs (Decidable (List.Nodup _))

/-- The texts that are put into one list of one scope are distinct. -/
theorem Unrepeated.nodup_fragments {rs : List Registration} (h : Unrepeated rs)
    (path : List String) (group : Group) :
    ((rs.filterMap (Registration.predicateAt? path group)).map Predicate.fragment).Nodup := by
  have hkeys : (((rs.filterMap (Registration.predicateAt? path group)).map
      Predicate.fragment).map fun text => (path, group, text)).Sublist
        (rs.filterMap Registration.key?) := by
    clear h
    induction rs with
    | nil => exact .slnil
    | cons r rest ih =>
        cases hr : r.predicateAt? path group with
        | none =>
            rw [List.filterMap_cons_none hr]
            cases hkey : r.key? with
            | none => rwa [List.filterMap_cons_none hkey]
            | some key =>
                rw [List.filterMap_cons_some hkey]
                exact ih.cons key
        | some p =>
            have hkey : r.key? = some (path, group, p.fragment) := by
              rw [Condition.predicateAt?_eq_some_iff.mp hr]
              rfl
            rw [List.filterMap_cons_some hr, List.filterMap_cons_some hkey]
            exact ih.cons_cons _
  exact (List.Nodup.sublist hkeys h).of_map

/-- The sort term that is registered, if it is meant for the scope the run began in. -/
def Registration.orderHere? (r : Registration) : Option String :=
  match r.path, r.clause with
  | [], .order term => some term
  | _, _ => none

theorem shareOf_perm : ∀ (path : List String) {rs rs' : List Registration}, rs.Perm rs' →
    (shareOf path rs).Perm (shareOf path rs') := by
  intro path
  induction path with
  | nil => exact id
  | cons on path ih => exact fun h => ih (h.filterMap _)

namespace Condition

/-! ## The same in another order -/

/-- Two scopes ask for the same in some order, and the same joins are open in them. -/
structure SameItems (c c' : Condition) : Prop where
  wheres : c.wheres.Perm c'.wheres
  ors : c.ors.Perm c'.ors
  orders : c.orders.Perm c'.orders
  joins : (c.joins.map JoinScope.on).Perm (c'.joins.map JoinScope.on)

/-- Two conditions have the same scopes, and those at the end of the same path ask for the same in
some order. -/
structure SameUpToOrder (c c' : Condition) : Prop where
  paths : ∀ path, (∃ t, c.HasScope path t) ↔ ∃ t', c'.HasScope path t'
  items : ∀ path t t', c.HasScope path t → c'.HasScope path t' → t.SameItems t'

/-- Predicates with distinct texts are put in one behind the other. -/
theorem upsertAll_eq_append (ps : List Predicate) : ∀ into : List Predicate,
    ((into ++ ps).map Predicate.fragment).Nodup → upsertAll ps into = into ++ ps := by
  induction ps with
  | nil =>
      intro into _
      exact (List.append_nil into).symm
  | cons p rest ih =>
      intro into hnodup
      have hfresh : p.fragment ∉ into.map Predicate.fragment := by
        rw [List.map_append, List.map_cons, List.nodup_append] at hnodup
        intro hmem
        exact hnodup.2.2 _ hmem _ List.mem_cons_self rfl
      show upsertAll rest (upsert p into) = into ++ p :: rest
      rw [upsert_fresh p into hfresh, ih (into ++ [p]) (by simpa using hnodup), List.append_assoc,
        List.singleton_append]

/-- The sort terms of a root after a run are those registered for the root, in order. -/
theorem orders_registerAll (rs : List Registration) : ∀ c : Condition,
    (c.registerAll rs).orders = c.orders ++ rs.filterMap Registration.orderHere? := by
  induction rs with
  | nil =>
      intro c
      exact (List.append_nil _).symm
  | cons r rest ih =>
      intro c
      have hrest : (c.registerAll (r :: rest)).orders =
          (c.register r).orders ++ rest.filterMap Registration.orderHere? := ih (c.register r)
      rw [hrest]
      obtain ⟨_ | ⟨on, path⟩, clause⟩ := r
      · cases clause with
        | predicate group p => cases group <;> rfl
        | order term =>
            show (c.orders ++ [term]) ++ _ = c.orders ++ term :: _
            rw [List.append_assoc, List.singleton_append]
        | scope => rfl
      · rfl

/-- Where no text replaces another one, a scope holds every predicate that is registered for it,
in order. -/
theorem HasScope.predicates_eq_of_unrepeated {rs : List Registration} {path : List String}
    {t : Condition} (h : (empty.registerAll rs).HasScope path t) (hrs : Unrepeated rs)
    (group : Group) :
    t.predicates group = rs.filterMap (Registration.predicateAt? path group) := by
  rw [h.predicates_eq group]
  exact upsertAll_eq_append _ [] (hrs.nodup_fragments path group)

section Perm

variable {rs rs' : List Registration} (hperm : rs.Perm rs') (hrs : Unrepeated rs)
include hperm hrs

/-- A scope after the same registrations in another order. -/
theorem SameItems.of_hasScope {path : List String} {t t' : Condition}
    (h : (empty.registerAll rs).HasScope path t) (h' : (empty.registerAll rs').HasScope path t') :
    t.SameItems t' := by
  have hrs' : Unrepeated rs' := (hperm.filterMap _).nodup hrs
  have hpredicates : ∀ group, (t.predicates group).Perm (t'.predicates group) := by
    intro group
    rw [h.predicates_eq_of_unrepeated hrs, h'.predicates_eq_of_unrepeated hrs']
    exact hperm.filterMap _
  have hjoins := (List.perm_ext_iff_of_nodup h.distinctKeys.joins h'.distinctKeys.joins).mpr
  rw [h.eq_registerAll, h'.eq_registerAll] at hjoins hpredicates ⊢
  have hshare := shareOf_perm path hperm
  refine ⟨hpredicates .and, hpredicates .or, ?_, hjoins fun on => ?_⟩
  · rw [orders_registerAll, orders_registerAll]
    exact (hshare.filterMap _).append_left _
  · rw [ons_registerAll, ons_registerAll, List.mem_eraseDups, List.mem_eraseDups]
    exact (hshare.filterMap _).mem_iff

/-- **The same registrations in another order** make the same condition, up to the order of what
is in its scopes. -/
theorem SameUpToOrder.registerAll :
    (empty.registerAll rs).SameUpToOrder (empty.registerAll rs') := by
  refine ⟨fun path => ?_, fun path t t' => SameItems.of_hasScope hperm hrs⟩
  simp only [exists_hasScope_registerAll_iff, hperm.mem_iff]

end Perm

end Condition

/-! ## Visits in another order -/

/-- The fields of a filter in another order are visited in another order, from outside. -/
theorem Filter.ChangesTo.surfaces_perm {f f' : Filter} (h : f.ChangesTo List.Perm f')
    (d : Dialect) (p : Place) :
    ((f.visits d p).map Visit.surface).Perm ((f'.visits d p).map Visit.surface) := by
  refine h.surfaces List.Perm .refl (fun before vs ws after hvs => ?_)
    (fun q fields fields' hperm => ?_) p
  · exact (hvs.append_right after).append_left before
  · rw [Field.surfaces, Field.surfaces, Field.visitsAll_eq_flatMap, Field.visitsAll_eq_flatMap]
    exact (hperm.flatMap_right _).map _

namespace Compiler

/-- **The order of fields carries no meaning** but the order of lists.  If a filter compiles and
none of its predicates replaces another one, then the fields of the filter, or those of a filter
inside it, can be put in any order: it still compiles, to a condition with the same scopes, each
with the same predicates and their parameters, sort terms and joins. -/
theorem fields_in_any_order (c : Compiler) {f f' : Filter} {condition : Condition}
    (hcompile : c.compile f = .ok condition) (h : f.ChangesTo List.Perm f')
    (hunrepeated : Unrepeated (c.trace 0 f.table f).steps) :
    ∃ condition', c.compile f' = .ok condition' ∧ condition.SameUpToOrder condition' := by
  obtain ⟨hsound, rfl⟩ := (c.compile_eq_ok_iff_sound f condition).mp hcompile
  rw [c.trace_of_sound f f.table hsound] at hunrepeated
  have hvisits := h.surfaces_perm c.dialect (.root f.table)
  have hregister : ∀ vs : List Visit,
      (vs.map Visit.surface).filterMap (Visit.registration? c.dialect) =
        vs.filterMap (Visit.registration? c.dialect) := by
    intro vs
    rw [List.filterMap_map]
    exact List.filterMap_congr fun v _ => v.registration?_surface c.dialect
  have hsound' : ∀ v ∈ f'.visits c.dialect (.root f.table), ∀ e, ¬ v.Offends c.maxDepth e := by
    intro v hv e he
    obtain ⟨u, hu, hsurface⟩ := List.mem_map.mp (hvisits.mem_iff.mpr (List.mem_map_of_mem hv))
    rw [← Visit.offends_surface_iff, ← hsurface, Visit.offends_surface_iff] at he
    exact hsound u hu e he
  refine ⟨_, (c.compile_eq_ok_iff_sound f' _).mpr ⟨?_, rfl⟩, ?_⟩
  · rw [h.table]
    exact hsound'
  · rw [h.table]
    have hperm := hvisits.filterMap (Visit.registration? c.dialect)
    rw [hregister, hregister] at hperm
    exact .registerAll hperm hunrepeated

/-- The orders of users in a state. -/
def ordersInState (state : String) : Field :=
  ⟨"Orders", some "type:join;join:orders;on:user_id,id", false, .nested ⟨"",
    [⟨"State", some "type:eq", false, .scalar (.text state)⟩,
      ⟨"PaidAt", some "type:order", false, .scalar (.text "desc")⟩]⟩⟩

/-- The orders of users, of which the total is large. -/
def ordersOfTotal : Field :=
  ⟨"Large", some "type:join;join:orders;on:user_id,id", false, .nested ⟨"",
    [⟨"Total", some "type:gte;group:or", false, .scalar (.int 9)⟩]⟩⟩

/-- Users with a name. -/
def named (name : String) : Field := ⟨"Name", some "type:like", false, .scalar (.text name)⟩

theorem fields_in_any_order_usersByOrders :
    (⟨"users", [ordersInState "new", named "bo", ordersOfTotal]⟩ : Filter).ChangesTo List.Perm
        ⟨"users", [ordersOfTotal, ordersInState "new", named "bo"]⟩ ∧
      ∃ condition', (⟨.postgres, 1⟩ : Compiler).compile
          ⟨"users", [ordersOfTotal, ordersInState "new", named "bo"]⟩ = .ok condition' ∧
        Condition.SameUpToOrder ⟨[⟨"users.name like ?", [.text "%bo%"]⟩], [], [],
          [⟨"LEFT JOIN orders ON orders.user_id = users.id",
            ⟨[⟨"orders.state = ?", [.text "new"]⟩], [⟨"orders.total >= ?", [.int 9]⟩],
              ["orders.paid_at desc"], []⟩⟩]⟩ condition' := by
  have hchanges : (⟨"users", [ordersInState "new", named "bo", ordersOfTotal]⟩ : Filter).ChangesTo
      List.Perm ⟨"users", [ordersOfTotal, ordersInState "new", named "bo"]⟩ :=
    ⟨rfl, .here (@List.perm_append_comm _ [ordersInState "new", named "bo"] [ordersOfTotal])⟩
  have hcompile : (⟨.postgres, 1⟩ : Compiler).compile
      ⟨"users", [ordersInState "new", named "bo", ordersOfTotal]⟩ = .ok
        ⟨[⟨"users.name like ?", [.text "%bo%"]⟩], [], [],
          [⟨"LEFT JOIN orders ON orders.user_id = users.id",
            ⟨[⟨"orders.state = ?", [.text "new"]⟩], [⟨"orders.total >= ?", [.int 9]⟩],
              ["orders.paid_at desc"], []⟩⟩]⟩ := by decide +kernel
  have hunrepeated : Unrepeated ((⟨.postgres, 1⟩ : Compiler).trace 0 "users"
      ⟨"users", [ordersInState "new", named "bo", ordersOfTotal]⟩).steps := by decide +kernel
  exact ⟨hchanges, fields_in_any_order _ hcompile hchanges hunrepeated⟩

-- Of two predicates with one text the later one counts, and then the order does matter.
example :
    (⟨.postgres, 0⟩ : Compiler).compile ⟨"users", [named "bo", named "al"]⟩ =
        .ok ⟨[⟨"users.name like ?", [.text "%al%"]⟩], [], [], []⟩ ∧
      (⟨.postgres, 0⟩ : Compiler).compile ⟨"users", [named "al", named "bo"]⟩ =
        .ok ⟨[⟨"users.name like ?", [.text "%bo%"]⟩], [], [], []⟩ := by
  decide +kernel

end Compiler

end SqlFilter
