import SqlFilter.Proofs.Marks

/-!
# Statements as one text

A statement is put together in a loop over scopes and predicates that counts the marks as it goes.
If every predicate is balanced, nothing of that is left in the result: it is the head and the
joins, then the text of all conditions with its marks numbered from the first to the last, then
the sort terms and the window.

## Main results

* `filterText`: the text of the conditions, and `Statement.appendFilters_eq_write`.
* `Select.filtered_eq_behind`: a statement without its sort terms, whatever its head is.
* `Select.query_eq_append`, `Select.query_eq`, `Select.count_eq`: the two statements.
-/

namespace SqlFilter

/-! ## Texts with a word before each -/

namespace Text

/-- Texts one after the other, each with a word before it. -/
def eachAfter (word : String) : List String → String
  | [] => ""
  | s :: rest => word ++ s ++ eachAfter word rest

theorem joinWith_cons (sep s : String) (rest : List String) :
    joinWith sep (s :: rest) = s ++ eachAfter sep rest := by
  induction rest generalizing s with
  | nil => simp [joinWith, eachAfter]
  | cons next more ih =>
      rw [joinWith, ih, eachAfter, String.append_assoc, String.append_assoc]
      · exact List.cons_ne_nil _ _

end Text

/-! ## The conditions -/

/-- Every mark of the predicate stands for one of its parameters. -/
def Predicate.Balanced (p : Predicate) : Prop := marks p.fragment = p.params.length

theorem totalMarks_fragments {ps : List Predicate} (hps : ∀ p ∈ ps, p.Balanced) :
    totalMarks (ps.map Predicate.fragment) = (ps.flatMap Predicate.params).length := by
  induction ps with
  | nil => rfl
  | cons p rest ih =>
      have hp : marks p.fragment = p.params.length := hps p List.mem_cons_self
      rw [List.map_cons, totalMarks, hp, ih fun q hq => hps q (List.mem_cons_of_mem _ hq),
        List.flatMap_cons, List.length_append]

/-- The text of the conditions, with the marks as they stand in the fragments: what must hold, in
brackets if there are alternatives, and those. -/
def filterText (wheres ors : List String) : String :=
  match wheres, ors with
  | [], [] => ""
  | _, [] => " WHERE " ++ Text.joinWith " AND " wheres
  | [], _ => " WHERE " ++ Text.joinWith " OR " ors
  | _, _ => " WHERE (" ++ Text.joinWith " AND " wheres ++ ")" ++ Text.eachAfter " OR " ors

namespace Statement

/-- Predicates with a word before each are one piece. -/
theorem foldl_eq_write (d : Dialect) {word : String} (hword : marks word = 0)
    (ps : List Predicate) (hps : ∀ p ∈ ps, p.Balanced) : ∀ s : Statement,
    ps.foldl (fun s q => (s.append word).appendPredicate d q) s =
      s.write d (Text.eachAfter word (ps.map Predicate.fragment)) (ps.flatMap Predicate.params) := by
  induction ps with
  | nil =>
      intro s
      exact (write_empty d s).symm
  | cons p rest ih =>
      intro s
      have hp : marks p.fragment = p.params.length := hps p List.mem_cons_self
      have hrest := ih fun q hq => hps q (List.mem_cons_of_mem _ hq)
      have hstep : (s.append word).appendPredicate d p =
          s.write d (word ++ p.fragment) p.params := by
        rw [append_eq_write d s hword, appendPredicate_eq_write, write_write d s hword]
        rfl
      rw [List.foldl_cons, hrest, hstep, write_write]
      · rfl
      · rw [marks_append, hword, hp, Nat.zero_add]

/-- Predicates with a word between them are one piece. -/
theorem appendJoined_eq_write (d : Dialect) {word : String} (hword : marks word = 0)
    (ps : List Predicate) (hps : ∀ p ∈ ps, p.Balanced) (s : Statement) :
    s.appendJoined d word ps =
      s.write d (Text.joinWith word (ps.map Predicate.fragment)) (ps.flatMap Predicate.params) := by
  cases ps with
  | nil => exact (write_empty d s).symm
  | cons p rest =>
      have hp : marks p.fragment = p.params.length := hps p List.mem_cons_self
      have hrest := foldl_eq_write d hword rest fun q hq => hps q (List.mem_cons_of_mem _ hq)
      rw [appendJoined, hrest, appendPredicate_eq_write, write_write d s hp, List.map_cons,
        Text.joinWith_cons]
      rfl

theorem marks_joinWith_fragments {word : String} (hword : marks word = 0) (ps : List Predicate)
    (hps : ∀ p ∈ ps, p.Balanced) :
    marks (Text.joinWith word (ps.map Predicate.fragment)) =
      (ps.flatMap Predicate.params).length := by
  rw [marks_joinWith hword, totalMarks_fragments hps]

/-- **The conditions are one piece**: numbering their marks one predicate after the other is
numbering them in the whole text. -/
theorem appendFilters_eq_write (d : Dialect) (s : Statement) {wheres ors : List Predicate}
    (hwheres : ∀ p ∈ wheres, p.Balanced) (hors : ∀ p ∈ ors, p.Balanced) :
    s.appendFilters d wheres ors =
      s.write d (filterText (wheres.map Predicate.fragment) (ors.map Predicate.fragment))
        ((wheres ++ ors).flatMap Predicate.params) := by
  have hwhere : marks " WHERE " = 0 := by decide
  have hopen : marks " WHERE (" = 0 := by decide
  have hclose : marks ")" = 0 := by decide
  have hand : marks " AND " = 0 := by decide
  have hor : marks " OR " = 0 := by decide
  cases wheres with
  | nil =>
      cases ors with
      | nil => exact (write_empty d s).symm
      | cons q qs =>
          have hjoined := appendJoined_eq_write d hor (q :: qs) hors (s.append " WHERE ")
          rw [append_eq_write d s hwhere, write_write d s hwhere] at hjoined
          rw [appendFilters, append_eq_write d s hwhere, hjoined]
          · rfl
          · exact List.cons_ne_nil _ _
  | cons p ps =>
      cases ors with
      | nil =>
          have hjoined := appendJoined_eq_write d hand (p :: ps) hwheres (s.append " WHERE ")
          rw [append_eq_write d s hwhere, write_write d s hwhere] at hjoined
          rw [appendFilters, append_eq_write d s hwhere, hjoined, List.append_nil]
          · rfl
          · exact List.cons_ne_nil _ _
      | cons q qs =>
          have hcount := marks_joinWith_fragments hand (p :: ps) hwheres
          have hinner := appendJoined_eq_write d hand (p :: ps) hwheres (s.append " WHERE (")
          have halternatives := foldl_eq_write d hor (q :: qs) hors
          rw [append_eq_write d s hopen, write_write d s hopen] at hinner
          rw [appendFilters, halternatives, append_eq_write d s hopen, hinner,
            append_eq_write d _ hclose, write_write, write_write, List.flatMap_append,
            ← String.append_assoc]
          · rfl
          · rw [marks_append, hopen, hcount, Nat.zero_add]
            rfl
          · exact hclose
          all_goals simp

/-! ## What a head has to do with it -/

/-- The statement with a head put before it. -/
def behind (head : String) (s : Statement) : Statement := ⟨head ++ s.sql, s.params⟩

theorem append_behind (head : String) (s : Statement) (text : String) :
    (s.behind head).append text = (s.append text).behind head := by
  simp only [behind, append, String.append_assoc]

theorem appendPredicate_behind (d : Dialect) (head : String) (s : Statement) (p : Predicate) :
    (s.behind head).appendPredicate d p = (s.appendPredicate d p).behind head := by
  simp only [behind, appendPredicate, String.append_assoc]

theorem foldl_behind (d : Dialect) (head word : String) (ps : List Predicate) :
    ∀ s : Statement,
      ps.foldl (fun s q => (s.append word).appendPredicate d q) (s.behind head) =
        (ps.foldl (fun s q => (s.append word).appendPredicate d q) s).behind head := by
  induction ps with
  | nil =>
      intro s
      rfl
  | cons p rest ih =>
      intro s
      rw [List.foldl_cons, List.foldl_cons, append_behind, appendPredicate_behind, ih]

theorem appendJoined_behind (d : Dialect) (head word : String) (s : Statement)
    (ps : List Predicate) :
    (s.behind head).appendJoined d word ps = (s.appendJoined d word ps).behind head := by
  cases ps with
  | nil => rfl
  | cons p rest => rw [appendJoined, appendPredicate_behind, foldl_behind, appendJoined]

/-- **The conditions are the same behind any head**, be their predicates balanced or not. -/
theorem appendFilters_behind (d : Dialect) (head : String) (s : Statement)
    (wheres ors : List Predicate) :
    (s.behind head).appendFilters d wheres ors = (s.appendFilters d wheres ors).behind head := by
  unfold appendFilters
  split
  · rfl
  · rw [append_behind, appendJoined_behind]
  · rw [append_behind, appendJoined_behind]
  · rw [append_behind, appendJoined_behind, append_behind, foldl_behind]

end Statement

/-! ## The whole statement -/

/-- The text of the joins. -/
def joinText (joins : List JoinScope) : String := Text.eachAfter " " (joins.map JoinScope.on)

/-- The text of the sort terms. -/
def sortText (orders : List String) : String :=
  if orders.isEmpty then "" else " ORDER BY " ++ Text.joinWith ", " orders

/-- The text of a window, if there is one. -/
def windowText (limit : Option UInt64) (offset : UInt64) : String :=
  match limit with
  | none => ""
  | some limit => " LIMIT " ++ toString limit.toNat ++ " OFFSET " ++ toString offset.toNat

theorem windowText_some (limit offset : UInt64) :
    windowText (some limit) offset = " " ++ Dialect.limitOffset limit offset := by
  have hword : " " ++ "LIMIT " = " LIMIT " := by decide
  rw [windowText, Dialect.limitOffset, ← String.append_assoc, ← String.append_assoc,
    ← String.append_assoc, hword]

theorem Statement.foldl_append_joins (joins : List JoinScope) : ∀ s : Statement,
    joins.foldl (fun (st : Statement) j => st.append (" " ++ j.on)) s =
      s.append (joinText joins) := by
  induction joins with
  | nil =>
      intro s
      simp [joinText, Text.eachAfter, append]
  | cons j rest ih =>
      intro s
      rw [List.foldl_cons, ih]
      simp [joinText, Text.eachAfter, append, String.append_assoc]

theorem Statement.append_sortText (s : Statement) (orders : List String) :
    (if orders.isEmpty then s else s.append (" ORDER BY " ++ Text.joinWith ", " orders)) =
      s.append (sortText orders) := by
  unfold sortText
  split
  · simp [append]
  · rfl

theorem Statement.append_windowText (s : Statement) (limit : Option UInt64) (offset : UInt64) :
    (match limit with
      | none => s
      | some limit => s.append (" " ++ Dialect.limitOffset limit offset)) =
      s.append (windowText limit offset) := by
  cases limit with
  | none => simp [windowText, append]
  | some limit => rw [windowText_some]

namespace Select

/-- The predicates of all scopes in the order in which a statement takes them. -/
def wheres (s : Select) : List Predicate := s.condition.scopes.flatMap Condition.wheres

/-- The alternatives of all scopes in the order in which a statement takes them. -/
def ors (s : Select) : List Predicate := s.condition.scopes.flatMap Condition.ors

/-- The sort terms of all scopes in the order in which a statement takes them. -/
def orders (s : Select) : List String := s.condition.scopes.flatMap Condition.orders

/-- All predicates, alternatives last. -/
def predicates (s : Select) : List Predicate := s.wheres ++ s.ors

/-- The text of all conditions. -/
def filters (s : Select) : String :=
  filterText (s.wheres.map Predicate.fragment) (s.ors.map Predicate.fragment)

/-- What the statement that reads the rows starts with. -/
def queryHead (s : Select) (d : Dialect) : String :=
  "SELECT " ++ d.qualifyAll s.table ++ " FROM " ++ d.quote s.table

/-- What the statement that counts the rows starts with. -/
def countHead (s : Select) (d : Dialect) : String := "SELECT COUNT(*) FROM " ++ d.quote s.table

/-- Every predicate of every scope is balanced. -/
def Balanced (s : Select) : Prop := ∀ p ∈ s.predicates, p.Balanced

/-- What holds of every predicate of every scope holds of the predicates of a statement. -/
theorem forall_mem_predicates {s : Select} {holds : Predicate → Prop}
    (hwheres : ∀ scope ∈ s.condition.scopes, ∀ p ∈ scope.wheres, holds p)
    (hors : ∀ scope ∈ s.condition.scopes, ∀ p ∈ scope.ors, holds p) :
    ∀ p ∈ s.predicates, holds p := by
  intro p hp
  rcases List.mem_append.mp hp with hp | hp
  · obtain ⟨scope, hscope, hmem⟩ := List.mem_flatMap.mp hp
    exact hwheres scope hscope p hmem
  · obtain ⟨scope, hscope, hmem⟩ := List.mem_flatMap.mp hp
    exact hors scope hscope p hmem

theorem filtered_eq (s : Select) (hs : s.Balanced) (d : Dialect) (head : String) :
    s.filtered d head =
      (Statement.mk (head ++ d.quote s.table ++ joinText s.condition.flattenJoins) []).write d
        s.filters (s.predicates.flatMap Predicate.params) := by
  have hwheres : ∀ p ∈ s.wheres, p.Balanced := fun p hp => hs p (List.mem_append_left _ hp)
  have hors : ∀ p ∈ s.ors, p.Balanced := fun p hp => hs p (List.mem_append_right _ hp)
  have hfilters := Statement.appendFilters_eq_write d
    (Statement.mk (head ++ d.quote s.table ++ joinText s.condition.flattenJoins) []) hwheres hors
  unfold filtered
  rw [Statement.foldl_append_joins]
  exact hfilters

/-- The joins come behind the head, and the conditions behind the joins. -/
theorem filtered_eq_behind (s : Select) (d : Dialect) (head : String) :
    s.filtered d head =
      (Statement.appendFilters d ⟨"", []⟩ s.wheres s.ors).behind
        (head ++ d.quote s.table ++ joinText s.condition.flattenJoins) := by
  have hfilters := Statement.appendFilters_behind d
    (head ++ d.quote s.table ++ joinText s.condition.flattenJoins) ⟨"", []⟩ s.wheres s.ors
  rw [← hfilters, Statement.behind, String.append_empty]
  unfold filtered
  rw [Statement.foldl_append_joins]
  rfl

/-- The sort terms and the window come after joins and conditions. -/
theorem query_eq_append (s : Select) (d : Dialect) :
    s.query d = ((s.filtered d ("SELECT " ++ d.qualifyAll s.table ++ " FROM ")).append
      (sortText s.orders)).append (windowText s.limit s.offset) := by
  unfold query
  exact (Statement.append_windowText _ _ _).trans
    (congrArg (Statement.append · (windowText s.limit s.offset)) (Statement.append_sortText _ _))

/-- The statement that reads the rows goes on with its joins behind its head. -/
theorem exists_query_sql_eq (s : Select) (d : Dialect) :
    ∃ rest, (s.query d).sql = s.queryHead d ++ joinText s.condition.flattenJoins ++ rest := by
  refine ⟨(Statement.appendFilters d ⟨"", []⟩ s.wheres s.ors).sql ++ sortText s.orders ++
    windowText s.limit s.offset, ?_⟩
  rw [query_eq_append, filtered_eq_behind]
  simp only [Statement.append, Statement.behind, queryHead, String.append_assoc]

/-- The statement that reads the rows, in one piece. -/
theorem query_eq (s : Select) (hs : s.Balanced) (d : Dialect) :
    s.query d =
      ⟨s.queryHead d ++ joinText s.condition.flattenJoins ++
          Statement.numberMarks d 0 s.filters.toList ++ sortText s.orders ++
          windowText s.limit s.offset,
        s.predicates.flatMap Predicate.params⟩ := by
  rw [query_eq_append, filtered_eq s hs]
  rfl

/-- The statement that counts the rows, in one piece. -/
theorem count_eq (s : Select) (hs : s.Balanced) (d : Dialect) :
    s.count d =
      ⟨s.countHead d ++ joinText s.condition.flattenJoins ++
          Statement.numberMarks d 0 s.filters.toList,
        s.predicates.flatMap Predicate.params⟩ := by
  rw [count, filtered_eq s hs]
  rfl

end Select

end SqlFilter
