import SqlFilter.Proofs.Preorder
import SqlFilter.Proofs.Rendering
import SqlFilter.Proofs.ScopeRuns

/-!
# What a statement looks like

A statement is put together by a loop that carries the text, the parameters and the number of the
next mark along.  `Select.pattern` says what comes out of it, piece by piece and without a loop:
the head, the joins in order, what must hold and the alternatives, the sort terms, the window.  In
the text of the conditions the mark that stands in the `k`-th place gets the number `k`, however
the marks are spread over the predicates.

## Main results

* `Dialect.writeMarks`: marks numbered by their place in a whole text, and
  `Statement.numberMarks_eq_writeMarks`.
* `Condition.ons_eq_joinsBelow`: the joins of any scope, in the order in which they were opened.
* `Select.query_eq_pattern`: the statement over whatever has been registered.
-/

namespace SqlFilter

/-! ## Marks in a whole text -/

/-- The text as the dialect writes it: the `k`-th `?` is the dialect's mark with the number `k`,
and everything else stays. -/
def Dialect.writeMarks (d : Dialect) (text : String) : String :=
  String.ofList (text.toList.zipIdx.flatMap fun (c, i) =>
    if c = '?' then (d.placeholder ((text.toList.take (i + 1)).count '?')).toList else [c])

namespace Statement

/-- Numbering the marks of the rest of a text, behind what has been numbered already. -/
theorem toList_numberMarks (d : Dialect) (cs : List Char) : ∀ before : List Char,
    (numberMarks d (before.count '?') cs).toList =
      (cs.zipIdx before.length).flatMap fun (c, i) =>
        if c = '?' then (d.placeholder (((before ++ cs).take (i + 1)).count '?')).toList
        else [c] := by
  induction cs with
  | nil =>
      intro before
      rfl
  | cons c rest ih =>
      intro before
      have hrest := ih (before ++ [c])
      rw [List.append_assoc, List.singleton_append, List.length_append, List.length_singleton]
        at hrest
      have htake : (before ++ c :: rest).take (before.length + 1) = before ++ [c] := by
        rw [List.take_append, List.take_of_length_le (Nat.le_succ _)]
        simp
      rw [List.zipIdx_cons, List.flatMap_cons, ← hrest]
      simp only [htake, List.count_append]
      by_cases hc : c = '?'
      · rw [numberMarks, if_pos hc, if_pos hc, String.toList_append, hc]
        rfl
      · have hnone : [c].count '?' = 0 := List.count_eq_zero.mpr (by simp [Ne.symm hc])
        rw [numberMarks, if_neg hc, if_neg hc, String.toList_append, hnone, Nat.add_zero]
        simp [Char.toString]

/-- Numbering mark by mark is numbering each by its place in the text. -/
theorem numberMarks_eq_writeMarks (d : Dialect) (text : String) :
    numberMarks d 0 text.toList = d.writeMarks text := by
  rw [← String.toList_inj, Dialect.writeMarks, String.toList_ofList]
  exact toList_numberMarks d text.toList []

end Statement

/-! ## The order of the joins -/

/-- The join that a registration goes through next after a path, if it goes along the path. -/
def Registration.joinBelow? (path : List String) (r : Registration) : Option String :=
  if path <+: r.path then r.path[path.length]? else none

theorem filterMap_head?_shareOf : ∀ (path : List String) (rs : List Registration),
    ((shareOf path rs).filterMap fun r => r.path.head?) =
      rs.filterMap (Registration.joinBelow? path) := by
  intro path
  induction path with
  | nil =>
      intro rs
      refine List.filterMap_congr fun r _ => ?_
      rw [Registration.joinBelow?, if_pos List.nil_prefix, List.length_nil, List.head?_eq_getElem?]
  | cons on path ih =>
      intro rs
      rw [shareOf, ih, List.filterMap_filterMap]
      refine List.filterMap_congr fun r _ => ?_
      obtain ⟨_ | ⟨first, rest⟩, clause⟩ := r
      · simp [Registration.inside?, Registration.joinBelow?]
      · by_cases hfirst : first = on
        · simp [Registration.inside?, Registration.joinBelow?, hfirst]
        · have hother : ¬ on = first := fun he => hfirst he.symm
          simp [Registration.inside?, Registration.joinBelow?, hfirst, hother]

namespace Condition

/-- **The joins of a scope come in the order in which they were opened**: each in the place of the
first registration that goes through it. -/
theorem ons_eq_joinsBelow {rs : List Registration} {path : List String} {scope : Condition}
    (h : (empty.registerAll rs).HasScope path scope) :
    scope.joins.map JoinScope.on = (rs.filterMap (Registration.joinBelow? path)).eraseDups := by
  rw [h.eq_registerAll, ons_registerAll, filterMap_head?_shareOf]

/-- The predicates of a condition are balanced if those are that were registered. -/
theorem balanced_of_registered {rs : List Registration}
    (h : ∀ r ∈ rs, ∀ group p, r.clause = .predicate group p → p.Balanced) {path : List String}
    {scope : Condition} (hscope : (empty.registerAll rs).HasScope path scope) :
    ∀ p ∈ scope.wheres ++ scope.ors, p.Balanced := by
  have hgroup : ∀ group, ∀ p ∈ scope.predicates group, p.Balanced := by
    intro group p hp
    exact h _ (mem_of_mem_clauses hscope (predicate_mem_clauses.mpr hp)) group p rfl
  intro p hp
  rcases List.mem_append.mp hp with hp | hp
  · exact hgroup .and p hp
  · exact hgroup .or p hp

end Condition

/-! ## The statement -/

namespace Select

/-- What the statement that reads the rows should be, over a root with its join scopes in order. -/
def pattern (d : Dialect) (table : String) (joins : List JoinScope) (root : Condition)
    (limit : Option UInt64) (offset : UInt64) : Statement :=
  let scopes := joins.map JoinScope.condition ++ [root]
  let wheres := scopes.flatMap Condition.wheres
  let ors := scopes.flatMap Condition.ors
  ⟨"SELECT " ++ d.quote table ++ ".* FROM " ++ d.quote table ++
      Text.eachAfter " " (joins.map JoinScope.on) ++
      d.writeMarks (filterText (wheres.map Predicate.fragment) (ors.map Predicate.fragment)) ++
      sortText (scopes.flatMap Condition.orders) ++ windowText limit offset,
    wheres.flatMap Predicate.params ++ ors.flatMap Predicate.params⟩

/-- **A statement is put together as its pattern says**, over whatever has been registered in
whatever order, as long as the predicates are balanced.  The joins come in the order of their
addresses, which is in every scope the order in which they were opened. -/
theorem query_eq_pattern (rs : List Registration) (table : String) (limit : Option UInt64)
    (offset : UInt64) (d : Dialect)
    (hbalanced : ∀ path scope, (Condition.empty.registerAll rs).HasScope path scope →
      ∀ p ∈ scope.wheres ++ scope.ors, p.Balanced) :
    ∃ joins, ListsInOrder (Condition.empty.registerAll rs).joins joins ∧
      (∀ path scope, (Condition.empty.registerAll rs).HasScope path scope →
        scope.joins.map JoinScope.on =
          (rs.filterMap (Registration.joinBelow? path)).eraseDups) ∧
      query ⟨table, Condition.empty.registerAll rs, limit, offset⟩ d =
        pattern d table joins (Condition.empty.registerAll rs) limit offset := by
  have hscopes : ∀ scope ∈ (Condition.empty.registerAll rs).scopes,
      ∀ p ∈ scope.wheres ++ scope.ors, p.Balanced := by
    intro scope hscope
    obtain ⟨path, hpath⟩ := Condition.exists_hasScope_of_mem_scopes hscope
    exact hbalanced path scope hpath
  have hselect : Balanced ⟨table, Condition.empty.registerAll rs, limit, offset⟩ :=
    forall_mem_predicates
      (fun scope hscope p hp => hscopes scope hscope p (List.mem_append_left _ hp))
      (fun scope hscope p hp => hscopes scope hscope p (List.mem_append_right _ hp))
  refine ⟨_, Condition.listsInOrder_flattenJoins _, fun path scope => Condition.ons_eq_joinsBelow,
    ?_⟩
  have hhead : queryHead ⟨table, Condition.empty.registerAll rs, limit, offset⟩ d =
      "SELECT " ++ d.quote table ++ ".* FROM " ++ d.quote table := by
    show "SELECT " ++ (d.quote table ++ ".*") ++ " FROM " ++ d.quote table = _
    simp only [String.append_assoc]
    rfl
  rw [query_eq _ hselect, Statement.numberMarks_eq_writeMarks, predicates, List.flatMap_append,
    hhead]
  rfl

/-- Adults by their orders or by what they bought. The age is asked for again at the end, and the
orders are come back to after the goods. -/
def adultsByOrders : List Registration :=
  let orders := "LEFT JOIN orders ON orders.user_id = users.id"
  let goods := "LEFT JOIN goods ON goods.order_id = orders.id"
  [⟨[], .predicate .and ⟨"users.age >= ?", [.int 18]⟩⟩,
    ⟨[orders, goods], .predicate .or ⟨"goods.name in (?, ?)", [.text "tea", .text "jam"]⟩⟩,
    ⟨[orders], .predicate .and ⟨"orders.total > ?", [.int 5]⟩⟩,
    ⟨[], .order "users.name asc"⟩,
    ⟨[], .predicate .and ⟨"users.age >= ?", [.int 21]⟩⟩]

theorem query_eq_pattern_adultsByOrders :
    (∀ path scope, (Condition.empty.registerAll adultsByOrders).HasScope path scope →
        ∀ p ∈ scope.wheres ++ scope.ors, p.Balanced) ∧
      ∃ joins, ListsInOrder (Condition.empty.registerAll adultsByOrders).joins joins ∧
        pattern .postgres "users" joins (Condition.empty.registerAll adultsByOrders) (some 20) 40 =
          ⟨"SELECT users.* FROM users LEFT JOIN orders ON orders.user_id = users.id " ++
              "LEFT JOIN goods ON goods.order_id = orders.id " ++
              "WHERE (orders.total > $1 AND users.age >= $2) OR goods.name in ($3, $4) " ++
              "ORDER BY users.name asc LIMIT 20 OFFSET 40",
            [.int 5, .int 21, .text "tea", .text "jam"]⟩ := by
  have hregistered : ∀ r ∈ adultsByOrders, ∀ group p, r.clause = .predicate group p →
      p.Balanced := by
    intro r hr group p hp
    simp only [adultsByOrders, List.mem_cons, List.not_mem_nil, or_false] at hr
    rcases hr with rfl | rfl | rfl | rfl | rfl <;> cases hp <;> rfl
  have hbalanced : ∀ path scope,
      (Condition.empty.registerAll adultsByOrders).HasScope path scope →
        ∀ p ∈ scope.wheres ++ scope.ors, p.Balanced :=
    fun path scope hscope => Condition.balanced_of_registered hregistered hscope
  obtain ⟨joins, horder, -, hquery⟩ :=
    query_eq_pattern adultsByOrders "users" (some 20) 40 .postgres hbalanced
  refine ⟨hbalanced, joins, horder, ?_⟩
  rw [← hquery]
  decide +kernel

end Select

end SqlFilter
