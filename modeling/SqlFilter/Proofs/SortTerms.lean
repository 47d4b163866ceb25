import SqlFilter.Proofs.Order
import SqlFilter.Proofs.Visit

/-!
# Sort terms of a compiled condition

The value of a sort field is the only one that is written into a statement.  Whatever the value
is, what ends up in the statement is a column of the field's table and a direction: the field's
own column if the value is a bare direction, and otherwise a column that the guard has made plain.
Every other value is passed over without a word.

## Main results

* `emit_of_order`: a sort field never fails.
* `Compiler.order_terms_guarded`: the sort terms of a compiled condition, and the values that give
  none.
-/

namespace SqlFilter

/-! ## The term of one request -/

/-- A request gives no term exactly if the guard refuses it and it is no bare direction. -/
theorem orderTerm?_eq_none_iff (d : Dialect) (target : Target) (request : String) :
    orderTerm? d target request = none ↔
      Order.guard? request = none ∧
        ∀ direction : Direction, Text.asciiLower (Text.trim request) ≠ direction.name := by
  have hdirection : Direction.ofText? (Text.trim request) = none ↔
      ∀ direction : Direction, Text.asciiLower (Text.trim request) ≠ direction.name := by
    rw [Option.eq_none_iff_forall_ne_some]
    refine forall_congr' fun direction => ?_
    rw [Ne, Direction.ofText?_eq_some_iff, Text.trim_trim]
  unfold orderTerm?
  simp only [Order.guard?_trim]
  cases hguard : Order.guard? request with
  | some order => simp
  | none => simp [hdirection]

/-- The term for a request is a column and a direction: the target's own column, or a plain one
that the request asks for. -/
theorem orderTerm?_eq_some {d : Dialect} {target : Target} {request term : String}
    (h : orderTerm? d target request = some term) :
    ∃ column direction,
      term = d.qualify target.table column ++ " " ++ Direction.name direction ∧
        (Text.asciiLower (Text.trim request) = direction.name ∧ column = target.column ∨
          Order.Asks request column direction ∧ Order.IsPlainColumn column) := by
  unfold orderTerm? at h
  simp only [Order.guard?_trim] at h
  cases hguard : Order.guard? request with
  | some order =>
      rw [hguard] at h
      cases h
      exact ⟨order.column, order.direction, rfl, .inr (Order.request_of_guard? hguard)⟩
  | none =>
      rw [hguard] at h
      obtain ⟨direction, hdirection, rfl⟩ := Option.map_eq_some_iff.mp h
      rw [Direction.ofText?_eq_some_iff, Text.trim_trim] at hdirection
      exact ⟨target.column, direction, rfl, .inl ⟨hdirection, rfl⟩⟩

/-! ## Sort fields -/

/-- A sort field contributes a term or nothing, and never fails. -/
theorem emit_of_order {d : Dialect} {tag : Tag} (hop : tag.operator = .order) (target : Target)
    (name : String) (value : FieldValue) :
    (∃ request term, value = .scalar (.text request) ∧ orderTerm? d target request = some term ∧
        emit d tag target name value = .ok (.order term)) ∨
      (∀ request, value = .scalar (.text request) → orderTerm? d target request = none) ∧
        emit d tag target name value = .ok .nothing := by
  unfold emit
  rw [hop]
  simp only
  split
  · rename_i request
    cases hterm : orderTerm? d target request with
    | some term => exact .inl ⟨request, term, rfl, hterm, rfl⟩
    | none =>
        refine .inr ⟨?_, rfl⟩
        intro other hother
        cases hother
        exact hterm
  · rename_i hother
    refine .inr ⟨?_, rfl⟩
    intro request hrequest
    exact absurd hrequest (hother request)

/-- Only a sort field contributes a sort term. -/
theorem operator_of_emit_order {d : Dialect} {tag : Tag} {target : Target} {name : String}
    {value : FieldValue} {term : String} (h : emit d tag target name value = .ok (.order term)) :
    tag.operator = .order := by
  unfold emit at h
  split at h
  · assumption
  · split at h
    · cases h
    · split at h <;> cases h
  · split at h <;> cases h

/-- The visited field is a sort field with a text, and the term is what the text asks for: the
field's own column if the text is a direction, else a plain column that it names. -/
def Visit.SortsBy (d : Dialect) (v : Visit) (term : String) : Prop :=
  ∃ (tag : Tag) (request column : String) (direction : Direction),
    v.field.HasTag tag ∧ tag.operator = .order ∧ v.field.isZero = false ∧
      v.field.value = .scalar (.text request) ∧
      term = d.qualify (tag.table.getD v.place.table) column ++ " " ++ direction.name ∧
      (Text.asciiLower (Text.trim request) = direction.name ∧
          column = tag.column.getD (snakeCase v.field.name) ∨
        Order.Asks request column direction ∧ Order.IsPlainColumn column)

theorem Visit.Emits.sortsBy {d : Dialect} {v : Visit} {tag : Tag} {term : String}
    (h : v.Emits d tag (.order term)) : v.SortsBy d term := by
  have hop := operator_of_emit_order h.emitted
  rcases emit_of_order (d := d) hop (Compiler.target tag v.place.table v.field.name) v.field.name
    v.field.value with ⟨request, found, hvalue, hterm, hemit⟩ | ⟨-, hemit⟩
  · rw [h.emitted] at hemit
    cases hemit
    obtain ⟨column, direction, hcolumn, hcases⟩ := orderTerm?_eq_some hterm
    exact ⟨tag, request, column, direction, h.tagged, hop, h.nonzero, hvalue, hcolumn, hcases⟩
  · rw [h.emitted] at hemit
    cases hemit

/-! ## The whole compiler -/

/-- **Nothing but guarded columns is written into a sort clause.**  Every sort term in the scope of
any path comes from a sort field that is visited in that scope; and a sort field whose value the
guard refuses and that is no bare direction changes nothing and stops nothing, wherever it
stands. -/
theorem Compiler.order_terms_guarded (c : Compiler) (f : Filter) :
    (∀ condition, c.compile f = .ok condition →
      ∀ path scope, condition.HasScope path scope → ∀ term ∈ scope.orders,
        ∃ v ∈ f.visits c.dialect (.root f.table), v.place.path = path ∧
          v.SortsBy c.dialect term) ∧
    ∀ (depth : Nat) (table : String) (field : Field) (tag : Tag),
      field.HasTag tag → tag.operator = .order →
      (∀ request, field.value = .scalar (.text request) →
        Order.guard? request = none ∧
          ∀ direction : Direction, Text.asciiLower (Text.trim request) ≠ direction.name) →
      ∀ condition, c.walkField depth table field condition = .ok condition := by
  constructor
  · intro condition hcompile path scope hscope term hterm
    have hclause : Clause.order term ∈ scope.clauses :=
      Condition.mem_clauses.mpr (.inr (.inr ⟨term, hterm, rfl⟩))
    obtain ⟨v, hv, hpath, tag, emission, hemits, hreg⟩ :=
      exists_visit_of_clause hcompile hscope hclause
    cases emission with
    | predicate p => cases hreg
    | order found =>
        cases hreg
        exact ⟨v, hv, hpath, hemits.sortsBy⟩
    | nothing => cases hreg
    | join on joined => cases hreg
  · rintro depth table ⟨name, text?, isZero, value⟩ tag ⟨text, rfl, hparse⟩ hop hrefused condition
    unfold walkField
    rw [hparse]
    cases isZero with
    | true => rfl
    | false =>
        rcases emit_of_order (d := c.dialect) hop (target tag table name) name value with
          ⟨request, term, hvalue, hterm, -⟩ | ⟨-, hemit⟩
        · have hnone := (orderTerm?_eq_none_iff c.dialect (target tag table name) request).mpr
            (hrefused request hvalue)
          rw [hnone] at hterm
          cases hterm
        · simp [hemit]

/-- A sort field that asks for something. -/
def sortField (request : String) : Field :=
  ⟨"Sort", some "type:order", false, .scalar (.text request)⟩

/-- Users with their orders, newest first; the second request is no sort request. -/
def usersWithSortedOrders : Filter :=
  ⟨"users", [⟨"Orders", some "type:join;join:orders;on:user_id,id", false, .nested ⟨"orders",
    [⟨"Page", none, false, .nested ⟨"", [sortField " order[ createdAt ]=DESC"]⟩⟩,
      sortField "order[id]=asc; drop table users"]⟩⟩]⟩

/-- The join that this filter opens. -/
def usersToOrders : String := "LEFT JOIN orders ON orders.user_id = users.id"

/-- The scope of that join. -/
def sortedOrders : JoinScope := ⟨usersToOrders, ⟨[], [], ["orders.created_at desc"], []⟩⟩

/-- What that filter asks for. -/
def usersWithSortedOrdersCondition : Condition := ⟨[], [], [], [sortedOrders]⟩

theorem Compiler.order_terms_guarded_usersWithSortedOrders :
    (⟨.postgres, defaultMaxDepth⟩ : Compiler).compile usersWithSortedOrders =
        .ok usersWithSortedOrdersCondition ∧
      (∃ v ∈ usersWithSortedOrders.visits .postgres (.root "users"),
        v.place.path = [usersToOrders] ∧ v.SortsBy .postgres "orders.created_at desc") ∧
      ∀ condition, (⟨.postgres, defaultMaxDepth⟩ : Compiler).walkField 0 "orders"
        (sortField "order[id]=asc; drop table users") condition = .ok condition := by
  have hcompile : (⟨.postgres, defaultMaxDepth⟩ : Compiler).compile usersWithSortedOrders =
      .ok usersWithSortedOrdersCondition := by decide +kernel
  have hguarded := order_terms_guarded ⟨.postgres, defaultMaxDepth⟩ usersWithSortedOrders
  have hopen : sortedOrders ∈ usersWithSortedOrdersCondition.joins := List.mem_cons_self
  have hscope := Condition.HasScope.join hopen (.root sortedOrders.condition)
  have htag : (sortField "order[id]=asc; drop table users").HasTag
      ⟨.order, none, none, none, .and⟩ := ⟨"type:order", rfl, by decide +kernel⟩
  refine ⟨hcompile, hguarded.1 _ hcompile _ _ hscope _ List.mem_cons_self, ?_⟩
  refine hguarded.2 0 "orders" _ _ htag rfl ?_
  rintro request hrequest
  cases hrequest
  exact ⟨by decide +kernel, by rintro ⟨⟩ <;> decide +kernel⟩

end SqlFilter
