import SqlFilter.Proofs.Column
import SqlFilter.Proofs.Marks
import SqlFilter.Proofs.Names
import SqlFilter.Proofs.Text.Space

/-!
# What a text asks for

The text of a predicate is a column and a test of it, and the text of a join names two tables and
the columns that tie them.  `Demand` and `Hop` are what such texts say, apart from any dialect.

Names may be anything, and with the right names one text can say two things.  But if a name holds
no backtick, no dot and no blank, then it ends where the text goes on with one of these, and what
the text says can be read off it.  So two such texts of Postgres are equal only if they say the
same.  The texts of MySQL are those of Postgres between backticks, with the exception that a match
without regard to case is written like one with regard to it.

## Main results

* `Bare`, `AsciiName.bare`: names that end where a text goes on. `unticked`: texts without
  backticks.
* `Demand`, `Asked`, `predicate?_eq_asked?`: predicates as data.
* `Demand.unticked_text_mysql`, `Demand.text_postgres_inj`, `Demand.text_mysql_eq_iff`.
* `Hop.unticked_clause`, `Hop.clause_mysql_eq_of_postgres`.
-/

namespace SqlFilter

/-! ## Names and backticks -/

/-- The name holds no backtick, no dot and no blank. -/
structure Bare (name : String) : Prop where
  tick : '\x60' ∉ name.toList
  dot : '.' ∉ name.toList
  blank : ' ' ∉ name.toList

instance : DecidablePred Bare := fun name =>
  decidable_of_iff ('\x60' ∉ name.toList ∧ '.' ∉ name.toList ∧ ' ' ∉ name.toList)
    ⟨fun h => ⟨h.1, h.2.1, h.2.2⟩, fun h => ⟨h.tick, h.dot, h.blank⟩⟩

/-- The name consists of ASCII letters, digits and underscores. -/
def AsciiName (name : String) : Prop := name.toList.all Text.isAsciiWord = true

instance : DecidablePred AsciiName := fun name =>
  inferInstanceAs (Decidable (name.toList.all Text.isAsciiWord = true))

theorem AsciiName.bare {name : String} (h : AsciiName name) : Bare name := by
  have hsign : ∀ sign : Char, Text.isAsciiWord sign = false → sign ∉ name.toList := by
    intro sign hsign hmem
    rw [List.all_eq_true.mp h sign hmem] at hsign
    cases hsign
  exact ⟨hsign _ (by decide), hsign _ (by decide), hsign _ (by decide)⟩

/-- The column name of a bare name is bare. -/
theorem Bare.snakeCase {name : String} (h : Bare name) : Bare (snakeCase name) :=
  ⟨notMem_snakeCase (by decide) (by decide) h.tick, notMem_snakeCase (by decide) (by decide) h.dot,
    notMem_snakeCase (by decide) (by decide) h.blank⟩

/-- A text without its backticks. -/
def unticked (text : String) : String := String.ofList (text.toList.filter (· ≠ '\x60'))

@[simp] theorem unticked_append (a b : String) : unticked (a ++ b) = unticked a ++ unticked b := by
  simp [unticked]

theorem unticked_eq_self {text : String} (h : '\x60' ∉ text.toList) : unticked text = text := by
  rw [← String.toList_inj, unticked, String.toList_ofList, List.filter_eq_self]
  intro c hc
  rw [decide_eq_true_eq]
  rintro rfl
  exact h hc

theorem unticked_quote (d : Dialect) {name : String} (h : Bare name) :
    unticked (d.quote name) = name := by
  have htick : unticked "\x60" = "" := by decide
  cases d with
  | mysql => rw [Dialect.quote, unticked_append, unticked_append, htick, unticked_eq_self h.tick,
      String.empty_append, String.append_empty]
  | postgres => exact unticked_eq_self h.tick

theorem unticked_qualify (d : Dialect) {table column : String} (htable : Bare table)
    (hcolumn : Bare column) :
    unticked (d.qualify table column) = Dialect.qualify .postgres table column := by
  have hdot : unticked "." = "." := by decide
  rw [Dialect.qualify, unticked_append, unticked_append, unticked_quote d htable,
    unticked_quote d hcolumn, hdot]
  rfl

/-! ## Predicates as data -/

/-- How a predicate tests its column. -/
inductive ColumnTest where
  | compare (relation : Comparison)
  | like (ignoreCase : Bool)
  | oneOf (count : Nat)
  | isNull
  | isNotNull
  deriving DecidableEq

/-- What a predicate asks for: nothing that could be true, or a test of a column. -/
inductive Demand where
  | never
  | about (target : Target) (test : ColumnTest)
  deriving DecidableEq

/-- The text of a test. -/
def ColumnTest.text (d : Dialect) : ColumnTest → String
  | .compare relation => relation.symbol ++ " ?"
  | .like ignoreCase => d.likeWord ignoreCase ++ " ?"
  | .oneOf count => "in (" ++ placeholders count ++ ")"
  | .isNull => "is null"
  | .isNotNull => "is not null"

/-- The text of a demand. -/
def Demand.text (d : Dialect) : Demand → String
  | .never => "1 = 0"
  | .about target test => d.column target ++ " " ++ test.text d

/-- A predicate before it is written. -/
structure Asked where
  demand : Demand
  params : List SqlValue
  deriving DecidableEq

/-- The predicate as the dialect writes it. -/
def Asked.write (d : Dialect) (asked : Asked) : Predicate := ⟨asked.demand.text d, asked.params⟩

/-- What an operator asks of its target with a value; `none` if it cannot take the value. -/
def asked? (target : Target) : Operator → FieldValue → Option Asked
  | .compare relation, .scalar v => some ⟨.about target (.compare relation), [v]⟩
  | .like anchor ignoreCase, .scalar v =>
    some ⟨.about target (.like ignoreCase), [.text (anchor.pattern v.display)]⟩
  | .oneOf, .scalar v => some ⟨.about target (.oneOf 1), [v]⟩
  | .oneOf, .list [] => some ⟨.never, []⟩
  | .oneOf, .list vs => some ⟨.about target (.oneOf vs.length), vs⟩
  | .isNull, _ => some ⟨.about target .isNull, []⟩
  | .isNotNull, _ => some ⟨.about target .isNotNull, []⟩
  | _, _ => none

/-- The predicate of an operator is what it asks, as the dialect writes it. -/
theorem predicate?_eq_asked? (d : Dialect) (target : Target) (op : Operator)
    (value : FieldValue) :
    predicate? d target op value = (asked? target op value).map (Asked.write d) := by
  have hone : " in (?)" = " " ++ ("in (" ++ placeholders 1 ++ ")") := by decide
  have hin : " in (" = " " ++ "in (" := by decide
  have hnull : " is null" = " " ++ "is null" := by decide
  have hnotNull : " is not null" = " " ++ "is not null" := by decide
  have hsome : ∀ {fragment text : String} {params : List SqlValue}, fragment = text →
      some (Predicate.mk fragment params) = some ⟨text, params⟩ := by
    rintro fragment _ params rfl
    rfl
  cases op with
  | compare relation =>
      cases value with
      | scalar v => exact hsome String.append_assoc
      | _ => rfl
  | like anchor ignoreCase =>
      cases value with
      | scalar v => exact hsome String.append_assoc
      | _ => rfl
  | oneOf =>
      cases value with
      | scalar v =>
          refine hsome ?_
          rw [hone, ← String.append_assoc]
          rfl
      | list vs =>
          cases vs with
          | nil => rfl
          | cons v more =>
              refine hsome ?_
              rw [hin]
              simp only [Demand.text, ColumnTest.text, String.append_assoc]
      | _ => rfl
  | isNull =>
      refine hsome ?_
      rw [hnull, ← String.append_assoc]
      rfl
  | isNotNull =>
      refine hsome ?_
      rw [hnotNull, ← String.append_assoc]
      rfl
  | order => rfl
  | join => rfl

/-! ## Reading a test off its text -/

namespace ColumnTest

/-- The tests whose text does not depend on how many values there are. -/
def fixed : List ColumnTest :=
  [.compare .eq, .compare .gt, .compare .gte, .compare .lt, .compare .lte, .like false,
    .like true, .isNull, .isNotNull]

theorem mem_fixed_or_oneOf (test : ColumnTest) : test ∈ fixed ∨ ∃ count, test = .oneOf count := by
  cases test with
  | compare relation => cases relation <;> exact .inl (by decide)
  | like ignoreCase => cases ignoreCase <;> exact .inl (by decide)
  | oneOf count => exact .inr ⟨count, rfl⟩
  | isNull => exact .inl (by decide)
  | isNotNull => exact .inl (by decide)

/-- No other test begins like the one of several values. -/
private theorem text_ne_oneOf {test : ColumnTest} (h : test ∈ fixed) (count : Nat) :
    test.text .postgres ≠ (oneOf count).text .postgres := by
  have hstart : ∀ test ∈ fixed, (test.text .postgres).toList.take 3 ≠ "in ".toList := by decide
  intro htext
  refine hstart test h ?_
  rw [htext, ColumnTest.text]
  simp

/-- Postgres writes different tests differently. -/
theorem text_postgres_inj {a b : ColumnTest} (h : a.text .postgres = b.text .postgres) :
    a = b := by
  have hfixed : ∀ a ∈ fixed, ∀ b ∈ fixed, a.text .postgres = b.text .postgres → a = b := by
    decide
  rcases a.mem_fixed_or_oneOf with ha | ⟨n, rfl⟩
  · rcases b.mem_fixed_or_oneOf with hb | ⟨m, rfl⟩
    · exact hfixed a ha b hb h
    · exact absurd h (text_ne_oneOf ha m)
  · rcases b.mem_fixed_or_oneOf with hb | ⟨m, rfl⟩
    · exact absurd h.symm (text_ne_oneOf hb n)
    · have hmarks := congrArg marks h
      simp only [ColumnTest.text, marks_append, marks_placeholders, Nat.add_right_cancel_iff,
        Nat.add_left_cancel_iff] at hmarks
      rw [hmarks]

/-- The test with regard to case, if it is a match. -/
def heedCase : ColumnTest → ColumnTest
  | .like _ => .like false
  | test => test

/-- MySQL writes a match without regard to case like one with regard to it, and otherwise tests
are written alike. -/
theorem text_mysql (test : ColumnTest) : test.text .mysql = test.heedCase.text .postgres := by
  cases test with
  | like ignoreCase => cases ignoreCase <;> rfl
  | _ => rfl

theorem tick_notMem_text (test : ColumnTest) : '\x60' ∉ (test.text .postgres).toList := by
  have hfixed : ∀ test ∈ fixed, '\x60' ∉ (test.text .postgres).toList := by decide
  rcases test.mem_fixed_or_oneOf with htest | ⟨count, rfl⟩
  · exact hfixed test htest
  · have hmarks : '\x60' ∉ (placeholders count).toList := by
      intro h
      rcases Text.mem_joinWith h with h | ⟨mark, hmark, h⟩
      · exact absurd h (by decide)
      · rw [List.eq_of_mem_replicate hmark] at h
        exact absurd h (by decide)
    simp [ColumnTest.text, hmarks]

end ColumnTest

/-! ## Reading a demand off its text -/

namespace Demand

/-- The names in the demand are bare. -/
def Plain : Demand → Prop
  | .never => True
  | .about target _ => Bare target.table ∧ Bare target.column

/-- The demand with regard to case, if it is a match. -/
def heedCase : Demand → Demand
  | .never => .never
  | .about target test => .about target test.heedCase

theorem toList_text_about (target : Target) (test : ColumnTest) :
    (text .postgres (.about target test)).toList =
      target.table.toList ++
        '.' :: (target.column.toList ++ ' ' :: (test.text .postgres).toList) := by
  simp [text, Dialect.column, Dialect.qualify, Dialect.quote]

/-- Postgres writes different demands differently. -/
theorem text_postgres_inj {a b : Demand} (ha : a.Plain) (hb : b.Plain)
    (h : a.text .postgres = b.text .postgres) : a = b := by
  have hnever : '.' ∉ (text .postgres .never).toList := by decide
  have hlist := congrArg String.toList h
  cases a with
  | never =>
      cases b with
      | never => rfl
      | about target test =>
          rw [hlist, toList_text_about] at hnever
          simp at hnever
  | about target test =>
      cases b with
      | never =>
          rw [← hlist, toList_text_about] at hnever
          simp at hnever
      | about target' test' =>
          rw [toList_text_about, toList_text_about] at hlist
          obtain ⟨htable, hrest⟩ := Text.append_cons_inj ha.1.dot hb.1.dot hlist
          obtain ⟨hcolumn, htest⟩ := Text.append_cons_inj ha.2.blank hb.2.blank hrest
          rw [String.toList_inj] at htable hcolumn htest
          rcases target with ⟨table, column⟩
          rcases target' with ⟨table', column'⟩
          simp only at htable hcolumn
          rw [htable, hcolumn, ColumnTest.text_postgres_inj htest]

/-- Without its backticks the text of MySQL is that of Postgres, with regard to case. -/
theorem unticked_text_mysql {q : Demand} (h : q.Plain) :
    unticked (q.text .mysql) = q.heedCase.text .postgres := by
  cases q with
  | never => decide
  | about target test =>
      have hblank : unticked " " = " " := by decide
      rw [text, unticked_append, unticked_append, hblank, Dialect.column,
        unticked_qualify .mysql h.1 h.2, ColumnTest.text_mysql,
        unticked_eq_self (ColumnTest.tick_notMem_text _)]
      rfl

theorem Plain.heedCase {q : Demand} (h : q.Plain) : q.heedCase.Plain := by
  cases q with
  | never => trivial
  | about target test => exact h

/-- What an operator asks of a plain target is plain. -/
theorem plain_of_asked? {target : Target} {op : Operator} {value : FieldValue} {asked : Asked}
    (h : asked? target op value = some asked) (htable : Bare target.table)
    (hcolumn : Bare target.column) : asked.demand.Plain := by
  unfold asked? at h
  split at h <;> cases h <;> first | exact ⟨htable, hcolumn⟩ | trivial

/-- MySQL writes two demands alike exactly if they are the same with regard to case. -/
theorem text_mysql_eq_iff {a b : Demand} (ha : a.Plain) (hb : b.Plain) :
    a.text .mysql = b.text .mysql ↔ a.heedCase = b.heedCase := by
  constructor
  · intro h
    have hunticked := congrArg unticked h
    rw [unticked_text_mysql ha, unticked_text_mysql hb] at hunticked
    exact text_postgres_inj ha.heedCase hb.heedCase hunticked
  · intro h
    have htext : ∀ q : Demand, q.text .mysql = q.heedCase.text .mysql := by
      intro q
      cases q with
      | never => rfl
      | about target test =>
          cases test with
          | like ignoreCase => cases ignoreCase <;> rfl
          | _ => rfl
    rw [htext a, htext b, h]

end Demand

/-! ## Reading a join off its text -/

namespace Hop

/-- The names in the join are bare. -/
def Plain (h : Hop) : Prop := h.join.Named Bare ∧ Bare h.target.table

/-- Without its backticks the join of MySQL is that of Postgres. -/
theorem unticked_clause {h : Hop} (hplain : h.Plain) :
    unticked (h.clause .mysql) = h.clause .postgres := by
  have hjoin : unticked "LEFT JOIN " = "LEFT JOIN " := by decide
  have hon : unticked " ON " = " ON " := by decide
  have heq : unticked " = " = " = " := by decide
  obtain ⟨⟨htable, hjoined, howning⟩, hheld⟩ := hplain
  simp only [clause, Dialect.joinClause, unticked_append, unticked_quote .mysql htable,
    unticked_qualify .mysql htable hjoined, unticked_qualify .mysql hheld howning, hjoin, hon, heq]
  rfl

theorem map_unticked_clause {hops : List Hop} (hplain : ∀ hop ∈ hops, hop.Plain) :
    (hops.map (Hop.clause .mysql)).map unticked = hops.map (Hop.clause .postgres) := by
  rw [List.map_map]
  exact List.map_congr_left fun hop hmem => unticked_clause (hplain hop hmem)

theorem toList_clause (h : Hop) :
    (h.clause .postgres).toList = "LEFT JOIN ".toList ++ (h.join.table.toList ++ ' ' ::
      ("ON ".toList ++ (h.join.table.toList ++ '.' :: (h.join.joined.toList ++ ' ' ::
        ("= ".toList ++ (h.target.table.toList ++ '.' :: h.join.owning.toList)))))) := by
  simp [clause, Dialect.joinClause, Dialect.qualify, Dialect.quote]

/-- Joins that Postgres writes alike are written alike by MySQL, too. -/
theorem clause_mysql_eq_of_postgres {a b : Hop} (ha : a.Plain) (hb : b.Plain)
    (h : a.clause .postgres = b.clause .postgres) : a.clause .mysql = b.clause .mysql := by
  have hlist := congrArg String.toList h
  rw [toList_clause, toList_clause, List.append_cancel_left_eq] at hlist
  obtain ⟨htable, hrest⟩ := Text.append_cons_inj ha.1.table.blank hb.1.table.blank hlist
  rw [htable, List.append_cancel_left_eq, List.append_cancel_left_eq, List.cons.injEq] at hrest
  obtain ⟨hjoined, hrest⟩ := Text.append_cons_inj ha.1.joined.blank hb.1.joined.blank hrest.2
  rw [List.append_cancel_left_eq] at hrest
  obtain ⟨hheld, howning⟩ := Text.append_cons_inj ha.2.dot hb.2.dot hrest
  rw [String.toList_inj] at htable hjoined hheld howning
  rw [clause, clause, Dialect.joinClause, Dialect.joinClause, htable, hjoined, hheld, howning]

end Hop

end SqlFilter
