import SqlFilter.Proofs.ScopeRuns

/-!
# Sessions on one condition

A condition may be worked on for long: clauses are set by hand, joins are opened, and filters are
resolved into it, each time in the scope at the end of some path of joins and perhaps with another
compiler.  A resolution that stops half way leaves what it has registered.

Every step comes down to registrations, and all of them lie in the scope that the step works in or
below it.  So a session is one long run of registrations on an empty condition, and what holds of
each registration holds of sessions: keys stay distinct and in their places, lists grow at the end,
and what is outside the scope of a step is left alone.

## Main results

* `SessionStep.run`, `Session.run`: steps and sessions.
* `Session.run_eq_registerAll`: a session as a run of registrations.
* `Condition.GrowsTo.register`, `Condition.SameContents.registerAll`: what registrations keep.
* `Condition.HasScope.mem_predicates_iff`: the parameters of a text are those of the last
  registration.
* `Session.keeps_keys_and_grows`.
-/

namespace SqlFilter

/-! ## Steps -/

/-- What a step of a session does in the scope that it works in. -/
inductive SessionAction where
  /-- Sets a clause. -/
  | set (clause : Clause)
  /-- Opens a join. -/
  | openJoin (on : String)
  /-- Resolves a filter, whose fields are about `parent` if it has no table. -/
  | resolve (c : Compiler) (f : Filter) (parent : String)

/-- An action and the path of joins to the scope that it works in. -/
structure SessionStep where
  path : List String
  action : SessionAction

/-- Carries out a step. -/
def SessionStep.run (s : SessionStep) (condition : Condition) : Resolution :=
  match s.action with
  | .set clause => .ok (condition.register ⟨s.path, clause⟩)
  | .openJoin on => .ok (condition.register ⟨s.path ++ [on], .scope⟩)
  | .resolve c f parent => c.resolveAt s.path f condition parent

/-- The condition after steps that began with an empty one. A step that fails is followed by the
next one all the same. -/
def Session.run (steps : List SessionStep) : Condition :=
  steps.foldl (fun condition s => (s.run condition).condition) .empty

/-- The registrations that a step makes. Resolving opens its scope before it walks. -/
def SessionStep.registrations (s : SessionStep) : List Registration :=
  match s.action with
  | .set clause => [⟨s.path, clause⟩]
  | .openJoin on => [⟨s.path ++ [on], .scope⟩]
  | .resolve c f parent =>
    ⟨s.path, .scope⟩ ::
      (c.trace 0 parent f).steps.map fun r => ⟨s.path ++ r.path, r.clause⟩

/-- A step registers nothing but in its scope and below it. -/
theorem SessionStep.path_isPrefix_of_mem {s : SessionStep} {r : Registration}
    (h : r ∈ s.registrations) : s.path <+: r.path := by
  unfold registrations at h
  split at h
  · cases List.mem_singleton.mp h
    exact List.prefix_rfl
  · cases List.mem_singleton.mp h
    exact List.prefix_append _ _
  · rcases List.mem_cons.mp h with rfl | h
    · exact List.prefix_rfl
    · obtain ⟨r, -, rfl⟩ := List.mem_map.mp h
      exact List.prefix_append _ _

/-! ## Steps as registrations -/

/-- Resolving into the scope at the end of a path opens it and carries the trace out there. -/
theorem Compiler.resolveAt_eq_registerAll (c : Compiler) (f : Filter) (parent : String)
    (path : List String) : ∀ condition : Condition,
      c.resolveAt path f condition parent =
        ⟨condition.registerAll (⟨path, .scope⟩ ::
          (c.trace 0 parent f).steps.map fun r => ⟨path ++ r.path, r.clause⟩),
          (c.trace 0 parent f).error⟩ := by
  -- The scope that is opened first is what makes this hold of a walk without registrations.
  induction path with
  | nil =>
      intro condition
      rw [resolveAt, resolve_eq_run]
      simp only [List.nil_append, List.map_id']
      rfl
  | cons on path ih =>
      intro condition
      rw [resolveAt, funext ih, Condition.walkScope_registerAll, List.map_cons, List.map_map]
      rfl

theorem SessionStep.condition_run (s : SessionStep) (condition : Condition) :
    (s.run condition).condition = condition.registerAll s.registrations := by
  unfold run registrations
  cases s.action with
  | set clause => rfl
  | openJoin on => rfl
  | resolve c f parent =>
      simp only
      rw [c.resolveAt_eq_registerAll f parent s.path condition]

/-- **A session is one run of registrations** on an empty condition. -/
theorem Session.run_eq_registerAll (steps : List SessionStep) :
    run steps = Condition.empty.registerAll (steps.flatMap SessionStep.registrations) := by
  induction steps using List.reverseRecOn with
  | nil => rfl
  | append_singleton steps s ih =>
      rw [List.flatMap_append, List.flatMap_singleton, Condition.registerAll_append, ← ih,
        ← s.condition_run, run, List.foldl_append]
      rfl

/-! ## What registrations keep -/

namespace Condition

/-- Keys are never taken away or moved, and neither is what is sorted by: each list of the scope
only grows at its end. -/
structure GrowsTo (old new : Condition) : Prop where
  wheres : old.wheres.map Predicate.fragment <+: new.wheres.map Predicate.fragment
  ors : old.ors.map Predicate.fragment <+: new.ors.map Predicate.fragment
  orders : old.orders <+: new.orders
  joins : old.joins.map JoinScope.on <+: new.joins.map JoinScope.on

/-- The scopes ask for the same, the scopes below them apart. -/
structure SameContents (old new : Condition) : Prop where
  wheres : new.wheres = old.wheres
  ors : new.ors = old.ors
  orders : new.orders = old.orders

theorem GrowsTo.refl (c : Condition) : c.GrowsTo c :=
  ⟨List.prefix_rfl, List.prefix_rfl, List.prefix_rfl, List.prefix_rfl⟩

theorem GrowsTo.trans {a b c : Condition} (h : a.GrowsTo b) (h' : b.GrowsTo c) : a.GrowsTo c :=
  ⟨h.wheres.trans h'.wheres, h.ors.trans h'.ors, h.orders.trans h'.orders, h.joins.trans h'.joins⟩

theorem fragments_prefix_upsert (p : Predicate) (ps : List Predicate) :
    ps.map Predicate.fragment <+: (upsert p ps).map Predicate.fragment := by
  rw [fragments_upsert]
  split
  · exact List.prefix_rfl
  · exact List.prefix_append _ _

theorem ons_prefix_updateScope (on : String) (change : Condition → Condition)
    (joins : List JoinScope) :
    joins.map JoinScope.on <+: (updateScope on change joins).map JoinScope.on := by
  rw [ons_updateScope]
  split
  · exact List.prefix_rfl
  · exact List.prefix_append _ _

/-- Under one registration a scope only grows. -/
theorem GrowsTo.register (c : Condition) (r : Registration) : c.GrowsTo (c.register r) := by
  have hsame := GrowsTo.refl c
  obtain ⟨_ | ⟨on, path⟩, clause⟩ := r
  · cases clause with
    | predicate group p =>
        cases group with
        | and => exact { hsame with wheres := fragments_prefix_upsert p c.wheres }
        | or => exact { hsame with ors := fragments_prefix_upsert p c.ors }
    | order term => exact { hsame with orders := List.prefix_append _ _ }
    | scope => exact hsame
  · exact { hsame with joins := ons_prefix_updateScope on _ c.joins }

/-- Under any number of registrations a scope only grows. -/
theorem GrowsTo.registerAll (rs : List Registration) : ∀ c : Condition,
    c.GrowsTo (c.registerAll rs) := by
  induction rs with
  | nil => exact GrowsTo.refl
  | cons r rest ih =>
      intro c
      exact (GrowsTo.register c r).trans (ih (c.register r))

/-- Registrations that are meant for scopes below do not change what this one asks for. -/
theorem SameContents.registerAll (rs : List Registration) (h : ∀ r ∈ rs, r.path ≠ []) :
    ∀ c : Condition, c.SameContents (c.registerAll rs) := by
  induction rs with
  | nil =>
      intro c
      exact ⟨rfl, rfl, rfl⟩
  | cons r rest ih =>
      intro c
      have hrest := ih (fun r' hr' => h r' (List.mem_cons_of_mem _ hr')) (c.register r)
      obtain ⟨_ | ⟨on, path⟩, clause⟩ := r
      · exact absurd rfl (h _ List.mem_cons_self)
      · exact ⟨hrest.wheres, hrest.ors, hrest.orders⟩

/-! ## The last registration of a text -/

/-- Of the registrations for the scope and the group, this predicate is the last one with its
text. -/
def LastRegistered (rs : List Registration) (path : List String) (group : Group) (p : Predicate) :
    Prop :=
  ∃ before after, rs = before ++ ⟨path, .predicate group p⟩ :: after ∧
    ∀ q, ⟨path, .predicate group q⟩ ∈ after → q.fragment ≠ p.fragment

theorem mem_upsert_iff {p q : Predicate} {ps : List Predicate} (h : KeyedPredicates ps) :
    q ∈ upsert p ps ↔ q = p ∨ q ∈ ps ∧ q.fragment ≠ p.fragment := by
  induction ps with
  | nil => simp [upsert]
  | cons r rest ih =>
      obtain ⟨hr, hrest⟩ := List.nodup_cons.mp h
      by_cases hkey : r.fragment = p.fragment
      · have hother : ∀ s ∈ rest, s.fragment ≠ p.fragment := by
          intro s hs he
          exact hr (List.mem_map.mpr ⟨s, hs, he.trans hkey.symm⟩)
        rw [upsert, if_pos hkey, List.mem_cons, List.mem_cons]
        constructor
        · rintro (rfl | hq)
          · exact .inl rfl
          · exact .inr ⟨.inr hq, hother q hq⟩
        · rintro (rfl | ⟨rfl | hq, hne⟩)
          · exact .inl rfl
          · exact absurd hkey hne
          · exact .inr hq
      · rw [upsert, if_neg hkey, List.mem_cons, List.mem_cons, ih hrest]
        constructor
        · rintro (rfl | rfl | ⟨hq, hne⟩)
          · exact .inr ⟨.inl rfl, hkey⟩
          · exact .inl rfl
          · exact .inr ⟨.inr hq, hne⟩
        · rintro (rfl | ⟨rfl | hq, hne⟩)
          · exact .inr (.inl rfl)
          · exact .inl rfl
          · exact .inr (.inr ⟨hq, hne⟩)

/-- One more registration is the last of its text, and takes that from no other text. -/
theorem lastRegistered_concat_iff {rs : List Registration} {r : Registration} {path : List String}
    {group : Group} {p : Predicate} :
    LastRegistered (rs ++ [r]) path group p ↔
      r = ⟨path, .predicate group p⟩ ∨ LastRegistered rs path group p ∧
        ∀ q, r = ⟨path, .predicate group q⟩ → q.fragment ≠ p.fragment := by
  constructor
  · rintro ⟨before, after, hrs, hafter⟩
    rcases after.eq_nil_or_concat with rfl | ⟨more, last, rfl⟩
    · exact .inl (List.append_inj_right' hrs rfl |> List.singleton_inj.mp)
    · rw [List.concat_eq_append, ← List.cons_append, ← List.append_assoc] at hrs
      obtain ⟨hinit, hlast⟩ := List.append_inj' hrs rfl
      cases hlast
      refine .inr ⟨⟨before, more, hinit, fun q hq => hafter q ?_⟩, fun q hq => hafter q ?_⟩
      · rw [List.concat_eq_append]
        exact List.mem_append_left _ hq
      · rw [List.concat_eq_append, hq]
        exact List.mem_append_right _ List.mem_cons_self
  · rintro (rfl | ⟨⟨before, after, rfl, hafter⟩, hlast⟩)
    · exact ⟨rs, [], rfl, fun q hq => by cases hq⟩
    · refine ⟨before, after ++ [r], by simp, fun q hq => ?_⟩
      rcases List.mem_append.mp hq with hq | hq
      · exact hafter q hq
      · exact hlast q (List.mem_singleton.mp hq).symm

theorem predicateAt?_eq_some_iff {r : Registration} {path : List String} {group : Group}
    {p : Predicate} :
    r.predicateAt? path group = some p ↔ r = ⟨path, .predicate group p⟩ := by
  obtain ⟨target, clause⟩ := r
  cases clause with
  | predicate g q =>
      simp only [Registration.predicateAt?]
      constructor
      · intro h
        split at h
        · rename_i hmeant
          obtain ⟨rfl, rfl⟩ := hmeant
          cases h
          rfl
        · cases h
      · intro h
        cases h
        exact if_pos ⟨rfl, rfl⟩
  | order term => simp [Registration.predicateAt?]
  | scope => simp [Registration.predicateAt?]

/-- What is left of predicates that were put in one by one is the last of each text. -/
theorem mem_upsertAll_predicateAt?_iff {path : List String} {group : Group} {p : Predicate}
    (rs : List Registration) :
    p ∈ upsertAll (rs.filterMap (Registration.predicateAt? path group)) [] ↔
      LastRegistered rs path group p := by
  -- From the end, since it is the registration that comes last that decides.
  induction rs using List.reverseRecOn with
  | nil => simp [upsertAll, LastRegistered]
  | append_singleton rs r ih =>
      rw [lastRegistered_concat_iff, ← ih, List.filterMap_append]
      cases hr : r.predicateAt? path group with
      | none =>
          have hother : ∀ q, r ≠ ⟨path, .predicate group q⟩ := by
            intro q hq
            rw [predicateAt?_eq_some_iff.mpr hq] at hr
            cases hr
          rw [List.filterMap_cons_none hr, List.filterMap_nil, List.append_nil]
          constructor
          · intro hp
            exact .inr ⟨hp, fun q hq => absurd hq (hother q)⟩
          · rintro (hp | ⟨hp, -⟩)
            · exact absurd hp (hother p)
            · exact hp
      | some q =>
          have hq : ∀ q', r = ⟨path, .predicate group q'⟩ ↔ q' = q := by
            intro q'
            rw [← predicateAt?_eq_some_iff, hr, Option.some.injEq, eq_comm]
          have hkeyed : KeyedPredicates
              (upsertAll (rs.filterMap (Registration.predicateAt? path group)) []) :=
            KeyedPredicates.upsertAll _ List.nodup_nil
          rw [List.filterMap_cons_some hr, List.filterMap_nil]
          show p ∈ List.foldl _ _ (_ ++ [q]) ↔ _
          rw [List.foldl_append]
          show p ∈ upsert q (upsertAll _ []) ↔ _
          rw [mem_upsert_iff hkeyed, hq]
          simp only [hq, forall_eq, ne_comm]

/-- **The parameters of a text are those of its last registration** in the scope. -/
theorem HasScope.mem_predicates_iff {rs : List Registration} {path : List String} {t : Condition}
    (h : (empty.registerAll rs).HasScope path t) (group : Group) (p : Predicate) :
    p ∈ t.predicates group ↔ LastRegistered rs path group p := by
  rw [h.predicates_eq group, mem_upsertAll_predicateAt?_iff]

/-! ## Scopes of a longer run -/

/-- The texts of each list are distinct. -/
structure DistinctKeys (c : Condition) : Prop where
  wheres : (c.wheres.map Predicate.fragment).Nodup
  ors : (c.ors.map Predicate.fragment).Nodup
  joins : (c.joins.map JoinScope.on).Nodup

theorem HasScope.distinctKeys {rs : List Registration} {path : List String} {t : Condition}
    (h : (empty.registerAll rs).HasScope path t) : t.DistinctKeys := by
  rw [h.eq_registerAll]
  obtain ⟨hwheres, hors, hjoins, -⟩ := (keyed_iff _).mp (keyed_registerAll_empty (shareOf path rs))
  exact ⟨hwheres, hors, hjoins⟩

/-- After more registrations a scope is still there, and what the further ones make of it is what
their share makes of it. -/
theorem HasScope.registerAll {rs : List Registration} {path : List String} {t : Condition}
    (h : (empty.registerAll rs).HasScope path t) (more : List Registration) :
    (empty.registerAll (rs ++ more)).HasScope path (t.registerAll (shareOf path more)) := by
  obtain ⟨hthere, rfl⟩ := hasScope_registerAll_iff.mp h
  rw [hasScope_registerAll_iff, shareOf_append, registerAll_append]
  refine ⟨hthere.imp_right ?_, rfl⟩
  rintro ⟨r, hr, hlead⟩
  exact ⟨r, List.mem_append_left _ hr, hlead⟩

end Condition

/-! ## Sessions -/

theorem Session.run_concat (steps : List SessionStep) (s : SessionStep) :
    run (steps ++ [s]) =
      Condition.empty.registerAll (steps.flatMap SessionStep.registrations ++ s.registrations) := by
  rw [run_eq_registerAll, List.flatMap_append, List.flatMap_singleton]

/-- The share that a scope has in the registrations of a step is meant for scopes further down,
unless the step works in the scope or above it. -/
theorem SessionStep.path_ne_nil_of_mem_shareOf {s : SessionStep} {path : List String}
    (houtside : ¬ s.path <+: path) {r : Registration} (h : r ∈ shareOf path s.registrations) :
    r.path ≠ [] := by
  intro hnil
  have hlead := path_isPrefix_of_mem (mem_shareOf.mp h)
  rw [hnil, List.append_nil] at hlead
  exact houtside hlead

/-- **What holds in every state of a session, and of every step.**  In each scope the texts of
each list are distinct, and the parameters of a predicate are those of the last registration of its
text; no two scopes have the same path.  A step keeps every scope that is there, only puts keys at
the end of lists, and leaves alone what the scopes ask for that are neither the one it works in nor
below it; where it opens such a scope, nothing is asked for in it. -/
theorem Session.keeps_keys_and_grows (steps : List SessionStep) :
    (∀ path scope, (run steps).HasScope path scope →
      scope.DistinctKeys ∧ (∀ other, (run steps).HasScope path other → other = scope) ∧
        ∀ group p, p ∈ scope.predicates group ↔
          Condition.LastRegistered (steps.flatMap SessionStep.registrations) path group p) ∧
    ∀ s : SessionStep, run (steps ++ [s]) = (s.run (run steps)).condition ∧
      (∀ path old, (run steps).HasScope path old →
        ∃ new, (run (steps ++ [s])).HasScope path new ∧ old.GrowsTo new ∧
          (¬ s.path <+: path → old.SameContents new)) ∧
      ∀ path new, (run (steps ++ [s])).HasScope path new → ¬ s.path <+: path →
        (∃ old, (run steps).HasScope path old) ∨ Condition.empty.SameContents new := by
  refine ⟨?_, fun s => ⟨?_, ?_, ?_⟩⟩
  · intro path scope hscope
    rw [run_eq_registerAll] at hscope ⊢
    refine ⟨hscope.distinctKeys, ?_, hscope.mem_predicates_iff⟩
    intro other hother
    rw [hother.eq_registerAll, hscope.eq_registerAll]
  · exact List.foldl_append
  · intro path old hold
    rw [run_eq_registerAll] at hold
    rw [run_concat]
    exact ⟨_, hold.registerAll s.registrations, .registerAll _ old, fun houtside =>
      .registerAll _ (fun r hr => SessionStep.path_ne_nil_of_mem_shareOf houtside hr) old⟩
  · intro path new hnew houtside
    rw [run_concat, Condition.hasScope_registerAll_iff, shareOf_append] at hnew
    obtain ⟨-, rfl⟩ := hnew
    rw [run_eq_registerAll, or_iff_not_imp_left, Condition.exists_hasScope_registerAll_iff, not_or]
    rintro ⟨-, hthere⟩
    have hshare : shareOf path (steps.flatMap SessionStep.registrations) = [] := by
      rw [List.eq_nil_iff_forall_not_mem]
      intro r hr
      exact hthere ⟨_, mem_shareOf.mp hr, List.prefix_append _ _⟩
    rw [hshare]
    exact .registerAll _ (fun r hr => SessionStep.path_ne_nil_of_mem_shareOf houtside hr) _

/-- The join that leads to the orders. -/
def onOrders : String := "LEFT JOIN orders ON orders.user_id = users.id"

/-- A session on users: their state is set, then a filter is resolved into their orders that stops
at a field without an operator, and then the state of the orders is set once more. -/
def ordersSession : List SessionStep :=
  [⟨[], .set (.predicate .and ⟨"users.state = ?", [.int 1]⟩)⟩,
    ⟨[onOrders], .resolve ⟨.postgres, 3⟩ ⟨"orders",
      [⟨"State", some "type:eq", false, .scalar (.int 1)⟩,
        ⟨"PaidAt", some "type:order", false, .scalar (.text "desc")⟩,
        ⟨"Total", some "type:between", false, .scalar (.int 9)⟩]⟩ ""⟩,
    ⟨[onOrders], .set (.predicate .and ⟨"orders.state = ?", [.int 2]⟩)⟩]

/-- The orders after that session. -/
def sessionOrders : Condition :=
  ⟨[⟨"orders.state = ?", [.int 2]⟩], [], ["orders.paid_at desc"], []⟩

theorem Session.keeps_keys_and_grows_ordersSession :
    (run ordersSession).HasScope [onOrders] sessionOrders ∧ sessionOrders.DistinctKeys ∧
      Condition.LastRegistered (ordersSession.flatMap SessionStep.registrations) [onOrders] .and
        ⟨"orders.state = ?", [.int 2]⟩ ∧
      ∃ new, (run (ordersSession ++ [⟨["LEFT JOIN goods ON goods.id = users.id"],
          .openJoin onOrders⟩])).HasScope [onOrders] new ∧
        sessionOrders.GrowsTo new ∧ sessionOrders.SameContents new := by
  have hrun : run ordersSession =
      ⟨[⟨"users.state = ?", [.int 1]⟩], [], [], [⟨onOrders, sessionOrders⟩]⟩ := by decide +kernel
  have hscope : (run ordersSession).HasScope [onOrders] sessionOrders := by
    rw [hrun]
    exact .join (s := ⟨onOrders, sessionOrders⟩) List.mem_cons_self (.root _)
  obtain ⟨hstate, hstep⟩ := keeps_keys_and_grows ordersSession
  obtain ⟨hkeys, -, hlast⟩ := hstate _ _ hscope
  obtain ⟨-, hgrows, -⟩ := hstep ⟨["LEFT JOIN goods ON goods.id = users.id"], .openJoin onOrders⟩
  obtain ⟨new, hnew, hgrown, hsame⟩ := hgrows _ _ hscope
  have houtside : ¬ ["LEFT JOIN goods ON goods.id = users.id"] <+: [onOrders] := by decide
  exact ⟨hscope, hkeys, (hlast .and _).mp List.mem_cons_self, new, hnew, hgrown, hsame houtside⟩

end SqlFilter
