import SqlFilter.Proofs.Offence

/-!
# Filters in tagged fields

A tagged field can hold a filter.  Under `join` the walk goes into it.  Any other operator that
reads the value refuses it, so that what the filter asks for is never lost in silence: it is walked
in full, or there is an error.

Sorting is the exception.  A sort field takes its request from a text, and whatever else it holds
is passed over, a filter as well as a number.

Going into a field shows in the list of visits: what is visited inside the field comes right behind
it, in one piece.

## Main results

* `Operator.takes_nested_iff`: the operators that do not refuse a filter.
* `Filter.visits_in_one_piece`: what is visited inside a field comes right behind it.
* `Compiler.filters_walked_or_refused`.
-/

namespace SqlFilter

/-! ## Visits in one piece -/

/-- A walk visits a field and then what it holds, if it goes into the field at all. -/
theorem Field.visits_eq_cons (d : Dialect) (p : Place) (field : Field) :
    ∃ inside, field.visits d p = ⟨p, field⟩ :: inside ∧
      (inside = [] ∨ ∃ within, inside = field.value.visits d within) := by
  rcases field with ⟨name, _ | text, isZero, value⟩
  · exact ⟨_, rfl, .inr ⟨p.inside, rfl⟩⟩
  · unfold Field.visits
    refine ⟨_, rfl, ?_⟩
    split
    · split
      · exact .inl rfl
      · split
        · exact .inr ⟨_, rfl⟩
        · exact .inl rfl
    · exact .inl rfl

section OnePiece

variable {d : Dialect} {v : Visit}

mutual
/-- **What is visited inside a field comes right behind it**, in one piece. -/
theorem Filter.visits_in_one_piece : ∀ (f : Filter) (p : Place), v ∈ f.visits d p →
    v.field.visits d v.place <:+: f.visits d p
  | ⟨table, fields⟩, p, hv => by
      rw [Filter.visits] at hv ⊢
      exact Field.visitsAll_in_one_piece fields (p.inTable table) hv

theorem Field.visitsAll_in_one_piece : ∀ (fields : List Field) (p : Place),
    v ∈ Field.visitsAll d p fields → v.field.visits d v.place <:+: Field.visitsAll d p fields
  | [], p, hv => by
      rw [Field.visitsAll] at hv
      cases hv
  | field :: rest, p, hv => by
      rw [Field.visitsAll] at hv ⊢
      rcases List.mem_append.mp hv with hv | hv
      · exact (Field.visits_in_one_piece field p hv).trans (List.prefix_append _ _).isInfix
      · exact (Field.visitsAll_in_one_piece rest p hv).trans (List.suffix_append _ _).isInfix

theorem Field.visits_in_one_piece : ∀ (field : Field) (p : Place), v ∈ field.visits d p →
    v.field.visits d v.place <:+: field.visits d p
  | ⟨name, tag, isZero, value⟩, p, hv => by
      obtain ⟨inside, hvisits, hinside⟩ := Field.visits_eq_cons d p ⟨name, tag, isZero, value⟩
      rw [hvisits] at hv
      rcases List.mem_cons.mp hv with rfl | hv
      · exact List.infix_rfl
      · rw [hvisits]
        apply List.infix_cons
        rcases hinside with rfl | ⟨within, rfl⟩
        · cases hv
        · exact FieldValue.visits_in_one_piece value within hv

theorem FieldValue.visits_in_one_piece : ∀ (value : FieldValue) (p : Place), v ∈ value.visits d p →
    v.field.visits d v.place <:+: value.visits d p
  | .nested inner, p, hv => Filter.visits_in_one_piece inner p hv
  | .null, _, hv => by cases hv
  | .scalar _, _, hv => by cases hv
  | .list _, _, hv => by cases hv
end

end OnePiece

/-! ## Tagged fields that hold a filter -/

/-- An operator does not refuse a filter if it goes into it or does not look at it. -/
theorem Operator.takes_nested_iff {op : Operator} :
    op.Takes .nested ↔ op ∈ [Operator.join, .order, .isNull, .isNotNull] := by
  cases op <;> simp [Operator.Takes]

/-- The visited field is not zero, and it holds the filter under the tag. -/
structure Visit.Holds (v : Visit) (tag : Tag) (inner : Filter) : Prop where
  tagged : v.field.HasTag tag
  nonzero : v.field.isZero = false
  value : v.field.value = .nested inner

section Holds

variable {v : Visit} {tag : Tag} {inner : Filter} (h : v.Holds tag inner)
include h

/-- An operator that reads its value refuses a filter. -/
theorem Visit.Holds.offends (hop : tag.operator ∉ [Operator.join, .order, .isNull, .isNotNull])
    (maxDepth : Nat) :
    v.Offends maxDepth (.unsupportedValue v.field.name tag.operator .nested) := by
  have hkind : v.field.value.kind = .nested := by
    rw [h.value]
    rfl
  have hjoin : tag.operator ≠ .join := by
    intro hjoin
    rw [hjoin] at hop
    exact hop List.mem_cons_self
  have hoffends : ¬ tag.operator.Takes v.field.value.kind →
      v.Offends maxDepth (.unsupportedValue v.field.name tag.operator v.field.value.kind) :=
    .unsupported h.tagged h.nonzero hjoin
  rw [hkind] at hoffends
  exact hoffends (mt Operator.takes_nested_iff.mp hop)

/-- Under a join, the fields of the filter come right behind the field that holds it. -/
theorem Visit.Holds.visits_eq {join : JoinTarget} (hjoin : tag.join = some join) (d : Dialect) :
    v.field.visits d v.place = v :: inner.visits d (v.place.joined
      (d.joinClause join (Compiler.target tag v.place.table v.field.name)) join.table) := by
  obtain ⟨⟨text, htext, hparse⟩, hzero, hvalue⟩ := h
  rcases v with ⟨place, name, tagged, isZero, value⟩
  cases htext
  cases hzero
  cases hvalue
  simp [Field.visits, FieldValue.visits, hparse, hjoin]

/-- A sort field that holds a filter is passed over. -/
theorem Visit.Holds.passed_of_order (hop : tag.operator = .order) (d : Dialect) (maxDepth : Nat) :
    v.registration? d = none ∧ ∀ e, ¬ v.Offends maxDepth e := by
  constructor
  · simp [Visit.registration?, Field.readTag_eq_some_iff.mpr h.tagged, h.nonzero, registered?,
      emit, hop, h.value, Emission.registration?]
  · intro e he
    rw [Visit.offends_iff_of_tag h.tagged h.nonzero, hop] at he
    rcases he with ⟨htakes, -⟩ | ⟨hjoin, -⟩
    · exact htakes trivial
    · cases hjoin

end Holds

namespace Compiler

/-- **A filter in a tagged field is walked or refused.**  Under an operator that reads its value
and is no join, a filter in a field that is not zero keeps the whole from compiling, and the error
says so unless something before it is wrong.  So if a filter compiles, then each filter that it
holds under such a tag stands in a join and has been walked: its fields come right behind the join
among those whose registrations make up the condition.  A sort field passes over a filter. -/
theorem filters_walked_or_refused (c : Compiler) (f : Filter) :
    (∀ before v after tag inner, f.visits c.dialect (.root f.table) = before ++ v :: after →
      v.Holds tag inner → tag.operator ∉ [Operator.join, .order, .isNull, .isNotNull] →
        (∀ condition, c.compile f ≠ .ok condition) ∧
          ((∀ u ∈ before, ∀ e, ¬ u.Offends c.maxDepth e) →
            c.compile f = .error (.unsupportedValue v.field.name tag.operator .nested))) ∧
    (∀ condition, c.compile f = .ok condition →
      condition = Condition.empty.registerAll
          ((f.visits c.dialect (.root f.table)).filterMap (Visit.registration? c.dialect)) ∧
        ∀ v ∈ f.visits c.dialect (.root f.table), ∀ tag inner, v.Holds tag inner →
          tag.operator ∉ [Operator.order, .isNull, .isNotNull] →
            ∃ join, tag.join = some join ∧
              v :: inner.visits c.dialect (v.place.joined
                (c.dialect.joinClause join (target tag v.place.table v.field.name)) join.table) <:+:
                  f.visits c.dialect (.root f.table)) ∧
    ∀ (v : Visit) (tag : Tag) (inner : Filter), v.Holds tag inner → tag.operator = .order →
      v.registration? c.dialect = none ∧ ∀ e, ¬ v.Offends c.maxDepth e := by
  refine ⟨?_, ?_, fun v tag inner hholds hop => hholds.passed_of_order hop c.dialect c.maxDepth⟩
  · intro before v after tag inner hvisits hholds hop
    have hoffends := hholds.offends hop c.maxDepth
    refine ⟨?_, ?_⟩
    · intro condition hcompile
      have hv : v ∈ f.visits c.dialect (.root f.table) := by
        rw [hvisits]
        exact List.mem_append_right _ List.mem_cons_self
      exact ((c.compile_eq_ok_iff_sound f condition).mp hcompile).1 v hv _ hoffends
    · intro hbefore
      have hvisited : before ++ [v] <+: f.visits c.dialect (.root f.table) :=
        ⟨after, by rw [hvisits, List.append_assoc, List.singleton_append]⟩
      exact compile_of_firstOffence ⟨hvisited, hbefore, hoffends⟩
  · intro condition hcompile
    obtain ⟨hsound, hcondition⟩ := (c.compile_eq_ok_iff_sound f condition).mp hcompile
    refine ⟨hcondition, ?_⟩
    intro v hv tag inner hholds hop
    have hjoin : tag.operator = .join := by
      by_contra hother
      have hrefused := List.not_mem_cons_of_ne_of_not_mem hother hop
      exact hsound v hv _ (hholds.offends hrefused c.maxDepth)
    obtain ⟨text, -, hparse⟩ := hholds.tagged
    obtain ⟨join, htarget⟩ := (Tag.operator_eq_join_iff_of_parse hparse).mp hjoin
    refine ⟨join, htarget, ?_⟩
    rw [← hholds.visits_eq htarget c.dialect]
    exact Filter.visits_in_one_piece f (.root f.table) hv

/-- New orders. -/
def newOrders : Filter := ⟨"orders", [⟨"Status", some "type:eq", false, .scalar (.text "new")⟩]⟩

/-- A field that holds them under a tag. -/
def ordersUnder (text : String) : Field := ⟨"Orders", some text, false, .nested newOrders⟩

/-- The tag that joins them. -/
def joiningOrders : Tag := ⟨.join, none, none, some ⟨"orders", "user_id", "id"⟩, .and⟩

/-- Users with new orders; more fields may follow. -/
def usersWithOrders (more : List Field) : Filter :=
  ⟨"users", ordersUnder "type:join;join:orders;on:user_id,id" :: more⟩

/-- The field with the orders in that filter. -/
def ordersJoined : Visit := ⟨.root "users", ordersUnder "type:join;join:orders;on:user_id,id"⟩

/-- The field inside the orders. -/
def orderStatus : Visit :=
  ⟨⟨["LEFT JOIN orders ON orders.user_id = users.id"], 1, "orders"⟩,
    ⟨"Status", some "type:eq", false, .scalar (.text "new")⟩⟩

theorem visits_usersWithOrders (more : List Field) :
    (usersWithOrders more).visits .postgres (.root "users") =
      [ordersJoined, orderStatus] ++ Field.visitsAll .postgres (.root "users") more := by
  have hjoin : Tag.parse "type:join;join:orders;on:user_id,id" = .ok (some joiningOrders) := by
    decide +kernel
  have heq : Tag.parse "type:eq" = .ok (some ⟨.compare .eq, none, none, none, .and⟩) := by
    decide +kernel
  simp [usersWithOrders, ordersUnder, newOrders, joiningOrders, ordersJoined, orderStatus,
    Filter.visits, Field.visitsAll, Field.visits, FieldValue.visits, hjoin, heq, Place.inTable,
    Place.root, Place.joined, Dialect.joinClause, Dialect.quote, Dialect.qualify, target]

theorem filters_walked_or_refused_usersWithOrders :
    (⟨.postgres, defaultMaxDepth⟩ : Compiler).compile (usersWithOrders [ordersUnder "type:in"]) =
        .error (.unsupportedValue "Orders" .oneOf .nested) ∧
      ∃ join, joiningOrders.join = some join ∧
        ordersJoined :: newOrders.visits .postgres ((Place.root "users").joined
            (Dialect.postgres.joinClause join (target joiningOrders "users" "Orders"))
            join.table) <:+:
          (usersWithOrders []).visits .postgres (.root "users") := by
  have hin : Tag.parse "type:in" = .ok (some ⟨.oneOf, none, none, none, .and⟩) := by decide +kernel
  have hvisits : (usersWithOrders [ordersUnder "type:in"]).visits .postgres (.root "users") =
      [ordersJoined, orderStatus] ++ [⟨.root "users", ordersUnder "type:in"⟩] := by
    rw [visits_usersWithOrders]
    simp [Field.visitsAll, ordersUnder, Field.visits, hin]
  have hsound : ∀ u ∈ [ordersJoined, orderStatus], ∀ e, ¬ Visit.Offends defaultMaxDepth u e := by
    intro u hu e he
    have herror := (error_contribution_iff ⟨.postgres, defaultMaxDepth⟩ u e).mpr he
    simp only [List.mem_cons, List.not_mem_nil, or_false] at hu
    have hnone : (contribution ⟨.postgres, defaultMaxDepth⟩ u.place u.field).error = none := by
      rcases hu with rfl | rfl <;> decide +kernel
    rw [hnone] at herror
    cases herror
  have hjoin : Tag.parse "type:join;join:orders;on:user_id,id" = .ok (some joiningOrders) := by
    decide +kernel
  have hcompile : (⟨.postgres, defaultMaxDepth⟩ : Compiler).compile (usersWithOrders []) =
      .ok ⟨[], [], [], [⟨"LEFT JOIN orders ON orders.user_id = users.id",
        ⟨[⟨"orders.status = ?", [.text "new"]⟩], [], [], []⟩⟩]⟩ := by decide +kernel
  have hmem : ordersJoined ∈ (usersWithOrders []).visits .postgres (.root "users") := by
    rw [visits_usersWithOrders]
    exact List.mem_cons_self
  constructor
  · have hrefused := (filters_walked_or_refused ⟨.postgres, defaultMaxDepth⟩
      (usersWithOrders [ordersUnder "type:in"])).1 _ _ [] _ newOrders hvisits
        ⟨⟨_, rfl, hin⟩, rfl, rfl⟩ (by decide)
    exact hrefused.2 hsound
  · have hwalked := (filters_walked_or_refused ⟨.postgres, defaultMaxDepth⟩
      (usersWithOrders [])).2.1 _ hcompile
    have hholds : ordersJoined.Holds joiningOrders newOrders := ⟨⟨_, rfl, hjoin⟩, rfl, rfl⟩
    exact hwalked.2 ordersJoined hmem joiningOrders newOrders hholds (by decide)

/-- Users and new orders under a tag that does not join them. -/
def usersBesideOrders (text : String) : Filter := ⟨"users", [ordersUnder text]⟩

theorem mem_visits_usersBesideOrders (text : String) :
    (⟨.root "users", ordersUnder text⟩ : Visit) ∈
      (usersBesideOrders text).visits .mysql (.root "users") := by
  obtain ⟨inside, hvisits, -⟩ := Field.visits_eq_cons .mysql (.root "users") (ordersUnder text)
  have hfirst : (⟨.root "users", ordersUnder text⟩ : Visit) ∈
      (ordersUnder text).visits .mysql (.root "users") := by
    rw [hvisits]
    exact List.mem_cons_self
  rw [usersBesideOrders, Filter.visits, Field.visitsAll]
  exact List.mem_append_left _ hfirst

/-- Under `order`, `isnull` and `isnotnull` a filter compiles that holds another one, and what the
inner one asks for is lost. -/
theorem filters_lost_usersBesideOrders :
    ((∃ v ∈ (usersBesideOrders "type:order").visits .mysql (.root "users"), ∃ tag,
        v.Holds tag newOrders ∧ tag.operator = .order) ∧
      (⟨.mysql, defaultMaxDepth⟩ : Compiler).compile (usersBesideOrders "type:order") =
        .ok .empty) ∧
    ((∃ v ∈ (usersBesideOrders "type:isnull").visits .mysql (.root "users"), ∃ tag,
        v.Holds tag newOrders ∧ tag.operator = .isNull) ∧
      (⟨.mysql, defaultMaxDepth⟩ : Compiler).compile (usersBesideOrders "type:isnull") =
        .ok ⟨[⟨"\x60users\x60.\x60orders\x60 is null", []⟩], [], [], []⟩) ∧
    (∃ v ∈ (usersBesideOrders "type:isnotnull").visits .mysql (.root "users"), ∃ tag,
        v.Holds tag newOrders ∧ tag.operator = .isNotNull) ∧
      (⟨.mysql, defaultMaxDepth⟩ : Compiler).compile (usersBesideOrders "type:isnotnull") =
        .ok ⟨[⟨"\x60users\x60.\x60orders\x60 is not null", []⟩], [], [], []⟩ := by
  have horder : Tag.parse "type:order" = .ok (some ⟨.order, none, none, none, .and⟩) := by
    decide +kernel
  have hnull : Tag.parse "type:isnull" = .ok (some ⟨.isNull, none, none, none, .and⟩) := by
    decide +kernel
  have hnotNull : Tag.parse "type:isnotnull" = .ok (some ⟨.isNotNull, none, none, none, .and⟩) := by
    decide +kernel
  refine ⟨⟨⟨_, mem_visits_usersBesideOrders _, _, ⟨⟨_, rfl, horder⟩, rfl, rfl⟩, rfl⟩, ?_⟩,
    ⟨⟨_, mem_visits_usersBesideOrders _, _, ⟨⟨_, rfl, hnull⟩, rfl, rfl⟩, rfl⟩, ?_⟩,
    ⟨_, mem_visits_usersBesideOrders _, _, ⟨⟨_, rfl, hnotNull⟩, rfl, rfl⟩, rfl⟩, ?_⟩
  all_goals decide +kernel

end Compiler

end SqlFilter
