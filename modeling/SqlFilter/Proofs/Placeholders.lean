import SqlFilter.Proofs.Column
import SqlFilter.Proofs.Interspersed
import SqlFilter.Proofs.Names
import SqlFilter.Proofs.SortTerms

/-!
# Marks and parameters are one to one

Every predicate that a field contributes has a mark for each of its parameters, whatever the
operator and however long the list, and sort terms and join clauses have none.  This holds as long
as the names that are written into texts have no `?` of their own.  It then holds in every scope
of a compiled condition, and so the statements over it have as many marks as parameters, and each
mark stands in the predicate that its parameter came with.

## Main results

* `predicate?_balanced`, `marks_orderTerm`, `marks_joinClause`: what one field contributes.
* `Condition.MarksFit`: the invariant of a scope.
* `Select.Aligned`: what it means for the statements over a condition.
* `Compiler.placeholders_match_params`: both hold of a compiled condition.
-/

namespace SqlFilter

/-! ## What one field contributes -/

/-- A text without marks. -/
def Unmarked (text : String) : Prop := marks text = 0

instance : DecidablePred Unmarked := fun text => inferInstanceAs (Decidable (marks text = 0))

theorem Comparison.marks_symbol (relation : Comparison) : marks relation.symbol = 0 := by
  cases relation <;> decide

theorem Dialect.marks_likeWord (d : Dialect) (ignoreCase : Bool) :
    marks (d.likeWord ignoreCase) = 0 := by
  cases d <;> cases ignoreCase <;> decide

theorem Direction.marks_name (direction : Direction) : marks direction.name = 0 := by
  cases direction <;> decide

/-- A predicate has a mark for each of its parameters. -/
theorem predicate?_balanced {d : Dialect} {target : Target} {op : Operator} {value : FieldValue}
    {p : Predicate} (h : predicate? d target op value = some p) (htable : Unmarked target.table)
    (hcolumn : Unmarked target.column) : p.Balanced := by
  have hname : marks (d.column target) = 0 := by
    rw [Dialect.column, marks_qualify, htable, hcolumn]
  have hspace : marks " " = 0 := by decide
  have hone : marks " ?" = 1 := by decide
  have hinOne : marks " in (?)" = 1 := by decide
  have hin : marks " in (" = 0 := by decide
  have hclose : marks ")" = 0 := by decide
  have hnull : marks " is null" = 0 := by decide
  have hnotNull : marks " is not null" = 0 := by decide
  unfold predicate? at h
  unfold Predicate.Balanced
  split at h <;> cases h
  · simp [hname, hspace, hone, Comparison.marks_symbol]
  · simp [hname, hspace, hone, Dialect.marks_likeWord]
  · simp [hname, hinOne]
  · decide
  · simp [hname, hin, hclose]
  · simp [hname, hnull]
  · simp [hname, hnotNull]

theorem marks_joinClause (d : Dialect) {join : JoinTarget} {target : Target}
    (hjoin : join.Named Unmarked) (htable : Unmarked target.table) :
    marks (d.joinClause join target) = 0 := by
  have hleft : marks "LEFT JOIN " = 0 := by decide
  have hon : marks " ON " = 0 := by decide
  have heq : marks " = " = 0 := by decide
  have hjoined : marks join.table = 0 := hjoin.table
  have hin : marks join.joined = 0 := hjoin.joined
  have hout : marks join.owning = 0 := hjoin.owning
  have haround : marks target.table = 0 := htable
  unfold Dialect.joinClause
  simp only [marks_append, marks_quote, marks_qualify, hleft, hon, heq, hjoined, hin, hout,
    haround]

/-- A plain column has no marks. -/
theorem Order.IsPlainColumn.unmarked {column : String} (h : IsPlainColumn column) :
    Unmarked column :=
  (marks_eq_zero_iff column).mpr (h.notMem (by decide))

theorem marks_orderTerm {d : Dialect} {target : Target} {request term : String}
    (h : orderTerm? d target request = some term) (htable : Unmarked target.table)
    (hcolumn : Unmarked target.column) : marks term = 0 := by
  have hspace : marks " " = 0 := by decide
  obtain ⟨column, direction, rfl, hcases⟩ := orderTerm?_eq_some h
  have hchosen : marks column = 0 := by
    rcases hcases with ⟨-, rfl⟩ | ⟨-, hplain⟩
    · exact hcolumn
    · exact hplain.unmarked
  have hheld : marks target.table = 0 := htable
  simp [hheld, hchosen, hspace, Direction.marks_name]

/-- What a field may contribute keeps marks and parameters one to one. -/
def Emission.MarksFit : Emission → Prop
  | .predicate p => p.Balanced
  | .order term => Unmarked term
  | .join on _ => Unmarked on
  | .nothing => True

theorem emit_marksFit {d : Dialect} {tag : Tag} {target : Target} {name : String}
    {value : FieldValue} {emission : Emission} (h : emit d tag target name value = .ok emission)
    (htag : tag.Named Unmarked) (htable : Unmarked target.table)
    (hcolumn : tag.operator ≠ .join → Unmarked target.column) : emission.MarksFit := by
  unfold emit at h
  split at h
  · rename_i hop
    have hown := hcolumn (by rw [hop]; exact fun he => by cases he)
    split at h
    · rename_i request
      cases hterm : orderTerm? d target request with
      | none =>
          rw [hterm] at h
          cases h
          trivial
      | some term =>
          rw [hterm] at h
          cases h
          exact marks_orderTerm hterm htable hown
    · cases h
      trivial
  · split at h
    · cases h
    · rename_i join hjoin
      split at h
      · cases h
        exact marks_joinClause d (htag.join join hjoin) htable
      · cases h
  · rename_i hother
    split at h
    · rename_i p hp
      cases h
      exact predicate?_balanced hp htable (hcolumn hother)
    · cases h

/-! ## The scopes of a compiled condition -/

/-- The text of a clause has as many marks as the clause has parameters. -/
def Clause.MarksFit : Clause → Prop
  | .predicate _ p => p.Balanced
  | .order term => Unmarked term
  | .scope => True

/-- A contribution is registered with as many marks as parameters. -/
theorem Emission.MarksFit.clause {emission : Emission} (h : emission.MarksFit) {group : Group}
    {r : Registration} (hreg : emission.registration? group = some r) : r.clause.MarksFit := by
  cases emission with
  | predicate p =>
      cases hreg
      exact h
  | order term =>
      cases hreg
      exact h
  | join on joined =>
      cases hreg
      trivial
  | nothing => cases hreg

/-- In this scope every mark stands for a parameter of its predicate. -/
structure Condition.MarksFit (c : Condition) : Prop where
  wheres : ∀ p ∈ c.wheres, p.Balanced
  ors : ∀ p ∈ c.ors, p.Balanced
  orders : ∀ term ∈ c.orders, Unmarked term
  joins : ∀ s ∈ c.joins, Unmarked s.on

/-- What a visited field contributes keeps marks and parameters one to one. -/
theorem Visit.Emits.marksFit {d : Dialect} {v : Visit} {tag : Tag} {emission : Emission}
    (h : v.Emits d tag emission) (hplace : v.place.Named Unmarked d)
    (hfield : v.field.OwnNamed Unmarked) : emission.MarksFit := by
  have htag := hfield.tag tag h.tagged
  have hsnake : ∀ name, Unmarked name → Unmarked (snakeCase name) := by
    intro name hname
    rw [Unmarked, marks_eq_zero_iff] at hname ⊢
    exact notMem_snakeCase (by decide) (by decide) hname
  refine emit_marksFit h.emitted htag (htag.target_table hplace.table _) fun hop => ?_
  exact hfield.target_column hsnake h.tagged h.nonzero hop _

section Compiled

variable {c : Compiler} {f : Filter} {condition scope : Condition} {path : List String}

/-- The clauses of a compiled condition have as many marks as parameters. -/
theorem Compiler.marksFit_of_clause (hcompile : c.compile f = .ok condition)
    (hnamed : f.Named Unmarked) (hscope : condition.HasScope path scope) {clause : Clause}
    (hclause : clause ∈ scope.clauses) : clause.MarksFit := by
  obtain ⟨v, hv, -, tag, emission, hemits, hreg⟩ := exists_visit_of_clause hcompile hscope hclause
  obtain ⟨hplace, hfield⟩ := hnamed.visits_root hv
  exact (hemits.marksFit hplace hfield).clause hreg

/-- The joins on the way to a scope of a compiled condition have no marks. -/
theorem Compiler.unmarked_path_of_compile (hcompile : c.compile f = .ok condition)
    (hnamed : f.Named Unmarked) (hscope : condition.HasScope path scope) :
    ∀ on ∈ path, Unmarked on := by
  have hplace : ∀ v ∈ f.visits c.dialect (.root f.table), ∀ on ∈ v.place.path, Unmarked on := by
    intro v hv on hon
    obtain ⟨join, target, rfl, hjoin, hheld⟩ := (hnamed.visits_root hv).1.path on hon
    exact marks_joinClause c.dialect hjoin hheld
  intro on hon
  rcases exists_visit_of_scope hcompile hscope with
    rfl | ⟨v, hv, hlead | ⟨tag, opened, joined, hemits, hlead⟩⟩
  · cases hon
  · exact hplace v hv on (hlead.subset hon)
  · rcases List.mem_append.mp (hlead.subset hon) with hmem | hmem
    · exact hplace v hv on hmem
    · obtain ⟨hv, hfield⟩ := hnamed.visits_root hv
      rw [List.mem_singleton.mp hmem]
      exact hemits.marksFit hv hfield

/-- Every scope of a compiled condition has as many marks as parameters, text by text. -/
theorem Compiler.marksFit_of_compile (hcompile : c.compile f = .ok condition)
    (hnamed : f.Named Unmarked) (hscope : condition.HasScope path scope) : scope.MarksFit := by
  have hclauses : ∀ clause ∈ scope.clauses, clause.MarksFit :=
    fun clause hclause => marksFit_of_clause hcompile hnamed hscope hclause
  refine ⟨?_, ?_, ?_, ?_⟩
  · intro p hp
    exact hclauses (.predicate .and p) (Condition.mem_clauses.mpr (.inl ⟨p, hp, rfl⟩))
  · intro p hp
    exact hclauses (.predicate .or p) (Condition.mem_clauses.mpr (.inr (.inl ⟨p, hp, rfl⟩)))
  · intro term hterm
    exact hclauses (.order term) (Condition.mem_clauses.mpr (.inr (.inr ⟨term, hterm, rfl⟩)))
  · intro s hs
    exact unmarked_path_of_compile hcompile hnamed (hscope.snoc hs) s.on
      (List.mem_append_right _ List.mem_cons_self)

end Compiled

/-! ## The statements over a condition -/

/-- Where a parameter of many predicates comes from. -/
theorem exists_split_of_lt_flatMap (ps : List Predicate) : ∀ k : Nat,
    k < (ps.flatMap Predicate.params).length → ∃ before p after j, ps = before ++ p :: after ∧
      j < p.params.length ∧ k = (before.flatMap Predicate.params).length + j := by
  induction ps with
  | nil =>
      intro k hk
      exact absurd hk (Nat.not_lt_zero k)
  | cons p rest ih =>
      intro k hk
      rw [List.flatMap_cons, List.length_append] at hk
      by_cases hfirst : k < p.params.length
      · exact ⟨[], p, rest, k, rfl, hfirst, (Nat.zero_add k).symm⟩
      · obtain ⟨before, q, after, j, rfl, hj, hindex⟩ := ih (k - p.params.length) (by omega)
        refine ⟨p :: before, q, after, j, rfl, hj, ?_⟩
        rw [List.flatMap_cons, List.length_append]
        omega

/-- Marks and parameters of the statements, one for each dialect, are one to one. -/
structure Select.Aligned (s : Select) (head : Dialect → String)
    (statement : Dialect → Statement) : Prop where
  /-- The parameters are those of the predicates, in the same order for every dialect. -/
  params : ∀ d, (statement d).params = s.predicates.flatMap Predicate.params
  /-- Between the fragments there are no marks. -/
  fragments : Interspersed (s.predicates.map Predicate.fragment) (statement .mysql).sql
  /-- There are as many marks as parameters. -/
  count : marks (statement .mysql).sql = (statement .mysql).params.length
  /-- The mark with a number stands in the fragment of the predicate that the parameter with that
  number belongs to: after the marks before the fragment, in the same place as the parameter. -/
  owner : ∀ k < (statement .mysql).params.length, ∃ before p after j,
    s.predicates = before ++ p :: after ∧ j < p.params.length ∧
      (statement .mysql).params[k]? = p.params[j]? ∧ marks p.fragment = p.params.length ∧
        ∃ front back, (statement .mysql).sql = front ++ p.fragment ++ back ∧ marks front + j = k
  /-- Both dialects write their heads and the same pieces of text, with as many marks between them
  as there are parameters.  For MySQL each mark is a `?`, and for Postgres they are `$1`, `$2` and
  so on in the places where MySQL has its own. -/
  numbered : ∃ opening pieces, Unmarked opening ∧ (∀ piece ∈ pieces, Unmarked piece) ∧
    (∀ d, Unmarked (head d) ∧ pieces.length = (statement d).params.length) ∧
      (statement .mysql).sql =
        head .mysql ++ opening ++ Statement.numbered (fun _ => "?") 1 pieces ∧
      (statement .postgres).sql =
        head .postgres ++ opening ++ Statement.numbered (fun k => "$" ++ toString k) 1 pieces

/-- A head and a body with the fragments of all predicates make statements that are aligned. -/
theorem Select.aligned_of_body {s : Select} {head : Dialect → String}
    {statement : Dialect → Statement} {body : String} (hbalanced : s.Balanced)
    (hhead : ∀ d, Unmarked (head d))
    (hbody : Interspersed (s.predicates.map Predicate.fragment) body)
    (hstatement : ∀ d, statement d = ⟨head d ++ Statement.numberMarks d 0 body.toList,
      s.predicates.flatMap Predicate.params⟩) : s.Aligned head statement := by
  have hmysql : (statement .mysql).sql = head .mysql ++ body := by
    rw [hstatement, Statement.numberMarks_mysql, String.ofList_toList]
  have hparams : ∀ d, (statement d).params = s.predicates.flatMap Predicate.params := by
    intro d
    rw [hstatement]
  have hfragments : Interspersed (s.predicates.map Predicate.fragment) (statement .mysql).sql := by
    rw [hmysql]
    exact hbody.prepend (hhead .mysql)
  have hcount : marks (statement .mysql).sql = (s.predicates.flatMap Predicate.params).length := by
    rw [hfragments.marks_eq, totalMarks_fragments hbalanced]
  refine ⟨hparams, hfragments, by rw [hcount, hparams], ?_, ?_⟩
  · intro k hk
    rw [hparams] at hk ⊢
    obtain ⟨before, p, after, j, hsplit, hj, rfl⟩ := exists_split_of_lt_flatMap _ k hk
    have hbefore : ∀ q ∈ before, q.Balanced := by
      intro q hq
      exact hbalanced q (by rw [hsplit]; exact List.mem_append_left _ hq)
    have hp : p.Balanced := hbalanced p (by rw [hsplit]; simp)
    rw [hsplit, List.map_append, List.map_cons] at hfragments
    obtain ⟨front, back, htext, hfront⟩ := hfragments.exists_around
    refine ⟨before, p, after, j, hsplit, hj, ?_, hp, front, back, htext, ?_⟩
    · rw [hsplit, List.flatMap_append, List.flatMap_cons,
        List.getElem?_append_right (Nat.le_add_right _ _), Nat.add_sub_cancel_left,
        List.getElem?_append_left hj]
    · rw [hfront, totalMarks_fragments hbefore]
  · obtain ⟨opening, pieces, hopening, hpieces, hlength, hnumber⟩ :=
      Statement.exists_pieces body.toList
    have hmarks : marks body = (s.predicates.flatMap Predicate.params).length := by
      rw [hbody.marks_eq, totalMarks_fragments hbalanced]
    have hsql : ∀ d, (statement d).sql =
        head d ++ opening ++ Statement.numbered d.placeholder 1 pieces := by
      intro d
      rw [hstatement, hnumber, String.append_assoc]
    refine ⟨opening, pieces, hopening, hpieces, fun d => ⟨hhead d, ?_⟩, hsql .mysql,
      hsql .postgres⟩
    rw [hparams, hlength]
    exact hmarks

theorem marks_joinText {joins : List JoinScope}
    (h : ∀ on ∈ joins.map JoinScope.on, Unmarked on) : marks (joinText joins) = 0 := by
  have hspace : marks " " = 0 := by decide
  rw [joinText, (Interspersed.eachAfter hspace _).marks_eq]
  exact totalMarks_eq_zero h

theorem marks_sortText {orders : List String} (h : ∀ term ∈ orders, Unmarked term) :
    marks (sortText orders) = 0 := by
  have hword : marks " ORDER BY " = 0 := by decide
  have hcomma : marks ", " = 0 := by decide
  unfold sortText
  split
  · rfl
  · rw [marks_append, hword, marks_joinWith hcomma, totalMarks_eq_zero h]

theorem marks_windowText (limit : Option UInt64) (offset : UInt64) :
    marks (windowText limit offset) = 0 := by
  have hspace : marks " " = 0 := by decide
  cases limit with
  | none => rfl
  | some limit => rw [windowText_some, marks_append, hspace, marks_limitOffset]

theorem Select.marks_queryHead (s : Select) (d : Dialect) (htable : Unmarked s.table) :
    marks (s.queryHead d) = 0 := by
  have hselect : marks "SELECT " = 0 := by decide
  have hfrom : marks " FROM " = 0 := by decide
  have hname : marks s.table = 0 := htable
  show marks ("SELECT " ++ d.qualifyAll s.table ++ " FROM " ++ d.quote s.table) = 0
  rw [marks_append, marks_append, marks_append, hselect, hfrom, marks_qualifyAll, marks_quote,
    hname]

theorem Select.marks_countHead (s : Select) (d : Dialect) (htable : Unmarked s.table) :
    marks (s.countHead d) = 0 := by
  have hselect : marks "SELECT COUNT(*) FROM " = 0 := by decide +kernel
  have hname : marks s.table = 0 := htable
  show marks ("SELECT COUNT(*) FROM " ++ d.quote s.table) = 0
  rw [marks_append, hselect, marks_quote, hname]

/-- If nothing but the predicates has marks, the statements over a condition are aligned. -/
theorem Select.aligned_of_marksFit (s : Select) (htable : Unmarked s.table)
    (hscopes : ∀ path scope, s.condition.HasScope path scope → scope.MarksFit)
    (hjoins : ∀ path scope, s.condition.HasScope path scope → ∀ on ∈ path, Unmarked on) :
    s.Aligned s.queryHead s.query ∧ s.Aligned s.countHead s.count := by
  have hfit : ∀ scope ∈ s.condition.scopes, scope.MarksFit := by
    intro scope hscope
    obtain ⟨path, hpath⟩ := Condition.exists_hasScope_of_mem_scopes hscope
    exact hscopes path scope hpath
  have hbalanced : s.Balanced :=
    forall_mem_predicates (fun scope hscope => (hfit scope hscope).wheres)
      fun scope hscope => (hfit scope hscope).ors
  have hons : ∀ on ∈ s.condition.flattenJoins.map JoinScope.on, Unmarked on := by
    intro on hon
    obtain ⟨j, hj, rfl⟩ := List.mem_map.mp hon
    obtain ⟨path, hpath⟩ := Condition.exists_hasScope_of_mem_flattenJoins j s.condition hj
    exact hjoins _ _ hpath j.on (List.mem_append_right _ List.mem_cons_self)
  have horders : ∀ term ∈ s.orders, Unmarked term := by
    intro term hterm
    obtain ⟨scope, hscope, hmem⟩ := List.mem_flatMap.mp hterm
    exact (hfit scope hscope).orders term hmem
  have hjoinText : Unmarked (joinText s.condition.flattenJoins) := marks_joinText hons
  have htail : Unmarked (sortText s.orders ++ windowText s.limit s.offset) := by
    rw [Unmarked, marks_append, marks_sortText horders, marks_windowText]
  have hfilters : Interspersed (s.predicates.map Predicate.fragment) s.filters := by
    rw [predicates, List.map_append]
    exact interspersed_filterText _ _
  have hnothing : Unmarked "" := rfl
  have htexts := hfilters.prepend hjoinText
  constructor
  · have hbody := htexts.append (.nil htail)
    rw [List.append_nil] at hbody
    refine aligned_of_body hbalanced (fun d => marks_queryHead s d htable) hbody fun d => ?_
    rw [query_eq s hbalanced, Statement.numberMarks_between d hjoinText htail]
    simp only [String.append_assoc]
  · refine aligned_of_body hbalanced (fun d => marks_countHead s d htable) htexts fun d => ?_
    have hnumber := Statement.numberMarks_between d hjoinText hnothing s.filters
    rw [String.append_empty, String.append_empty] at hnumber
    rw [count_eq s hbalanced, hnumber, String.append_assoc]

/-! ## The whole compiler -/

/-- **Marks and parameters stay one to one**, from the filter to the statements: in every scope of
a compiled condition, and in both statements over it, whatever the window is. -/
theorem Compiler.placeholders_match_params {c : Compiler} {f : Filter} {condition : Condition}
    (hcompile : c.compile f = .ok condition) (hnamed : f.Named Unmarked) :
    (∀ path scope, condition.HasScope path scope → scope.MarksFit) ∧
      ∀ s : Select, s.condition = condition → Unmarked s.table →
        s.Aligned s.queryHead s.query ∧ s.Aligned s.countHead s.count := by
  have hscopes : ∀ path scope, condition.HasScope path scope → scope.MarksFit :=
    fun path scope hscope => marksFit_of_compile hcompile hnamed hscope
  refine ⟨hscopes, ?_⟩
  rintro s rfl htable
  exact s.aligned_of_marksFit htable hscopes fun path scope hscope =>
    unmarked_path_of_compile hcompile hnamed hscope

/-- Users by a part of their name or by their age, and their orders by status. -/
def usersByOrders : Filter :=
  ⟨"users", [⟨"UserName", some "type:like", false, .scalar (.text "bo?")⟩,
    ⟨"Age", some "type:gte;group:or", false, .scalar (.int 18)⟩,
    ⟨"Orders", some "type:join;join:orders;on:user_id,id", false, .nested ⟨"orders",
      [⟨"Status", some "type:in", false, .list [.text "new", .text "paid"]⟩,
        ⟨"Sort", some "type:order", false, .scalar (.text "order[createdAt]=DESC")⟩]⟩⟩]⟩

/-- What that filter asks for. -/
def usersByOrdersCondition : Condition :=
  ⟨[⟨"users.user_name like ?", [.text "%bo?%"]⟩], [⟨"users.age >= ?", [.int 18]⟩], [],
    [⟨"LEFT JOIN orders ON orders.user_id = users.id",
      ⟨[⟨"orders.status in (?, ?)", [.text "new", .text "paid"]⟩], [], ["orders.created_at desc"],
        []⟩⟩]⟩

/-- Both statements over it have four marks, which Postgres numbers from the first to the last. -/
theorem Compiler.placeholders_match_params_usersByOrders :
    (⟨.postgres, defaultMaxDepth⟩ : Compiler).compile usersByOrders = .ok usersByOrdersCondition ∧
      usersByOrders.Named Unmarked ∧ Unmarked "users" ∧
      marks ((Select.ofTable "users" usersByOrdersCondition).query .mysql).sql = 4 ∧
      (Select.ofTable "users" usersByOrdersCondition).query .mysql =
        ⟨"SELECT \x60users\x60.* FROM \x60users\x60 " ++
            "LEFT JOIN orders ON orders.user_id = users.id " ++
            "WHERE (orders.status in (?, ?) AND users.user_name like ?) OR users.age >= ? " ++
            "ORDER BY orders.created_at desc",
          [.text "new", .text "paid", .text "%bo?%", .int 18]⟩ ∧
      (Select.ofTable "users" usersByOrdersCondition).query .postgres =
        ⟨"SELECT users.* FROM users " ++
            "LEFT JOIN orders ON orders.user_id = users.id " ++
            "WHERE (orders.status in ($1, $2) AND users.user_name like $3) OR users.age >= $4 " ++
            "ORDER BY orders.created_at desc",
          [.text "new", .text "paid", .text "%bo?%", .int 18]⟩ ∧
      ∃ opening pieces, pieces.length = 4 ∧
        ((Select.ofTable "users" usersByOrdersCondition).count .postgres).sql =
          "SELECT COUNT(*) FROM users" ++ opening ++
            Statement.numbered (fun k => "$" ++ toString k) 1 pieces := by
  have hcompile : (⟨.postgres, defaultMaxDepth⟩ : Compiler).compile usersByOrders =
      .ok usersByOrdersCondition := by decide +kernel
  have hnamed : usersByOrders.Named Unmarked := by decide +kernel
  have htable : Unmarked "users" := by decide
  have hparams : ((Select.ofTable "users" usersByOrdersCondition).predicates.flatMap
      Predicate.params).length = 4 := by decide +kernel
  obtain ⟨hquery, hcount⟩ := (placeholders_match_params hcompile hnamed).2
    (Select.ofTable "users" usersByOrdersCondition) rfl htable
  obtain ⟨opening, pieces, -, -, hheads, -, hpostgres⟩ := hcount.numbered
  refine ⟨hcompile, hnamed, htable, ?_, by decide +kernel, by decide +kernel, opening, pieces, ?_,
    hpostgres⟩
  · rw [hquery.count, hquery.params, hparams]
  · rw [(hheads .postgres).2, hcount.params, hparams]

end SqlFilter
