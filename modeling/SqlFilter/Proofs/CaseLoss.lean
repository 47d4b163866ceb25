import SqlFilter.Proofs.DialectQuoting
import Mathlib.Data.Finset.Card

/-!
# Predicates that only one dialect keeps

MySQL has no word for a match without regard to case and writes it like a match with regard to it.
So if a filter asks one column for both, then the two predicates have one text in MySQL, and the
parameters of the first are replaced by those of the second.  Postgres keeps the two apart.

With bare names that is the only way to lose a predicate.  In every scope and group the two
dialects register the same parameters in the same order unless some column is matched in both
ways there, and then MySQL registers fewer predicates than Postgres.

## Main results

* `Filter.MixesCase`: a column is matched with regard to case and without.
* `Condition.length_upsertAll`: how many predicates are left of those that are asked for.
* `exists_hasScope_write_iff`: the scopes of a compiled condition.
* `Compiler.params_agree_unless_mixesCase`.
-/

namespace SqlFilter

/-! ## What is asked for in a scope -/

/-- What the intent asks for, if that is in the scope at the end of the path and in the group. -/
def Intent.askedAt? (d : Dialect) (path : List String) (group : Group) (e : Intent) :
    Option Asked :=
  match e.content with
  | .test g asked => if e.path.map (Hop.clause d) = path ∧ g = group then some asked else none
  | _ => none

/-- What the intents ask for in the scope at the end of the path and in the group. -/
def askedAt (d : Dialect) (path : List String) (group : Group) (es : List Intent) : List Asked :=
  es.filterMap (Intent.askedAt? d path group)

theorem mem_askedAt {d : Dialect} {path : List String} {group : Group} {es : List Intent}
    {asked : Asked} : asked ∈ askedAt d path group es ↔
      ∃ e ∈ es, e.path.map (Hop.clause d) = path ∧ e.content = .test group asked := by
  rw [askedAt, List.mem_filterMap]
  refine exists_congr fun e => and_congr_right fun _ => ?_
  unfold Intent.askedAt?
  cases e.content with
  | test g found => simp [and_assoc]
  | sort target direction => simp
  | scope => simp

/-- The predicates that are registered for a scope and a group are those asked for there. -/
theorem filterMap_predicateAt?_write (d : Dialect) (path : List String) (group : Group)
    (es : List Intent) :
    (es.map (Intent.write d)).filterMap (Registration.predicateAt? path group) =
      (askedAt d path group es).map (Asked.write d) := by
  rw [askedAt, List.filterMap_map, List.map_filterMap]
  refine List.filterMap_congr fun e _ => ?_
  obtain ⟨hops, content⟩ := e
  cases content with
  | test g asked =>
      by_cases hat : hops.map (Hop.clause d) = path ∧ g = group
      · simp [Intent.askedAt?, Registration.predicateAt?, Intent.write, Content.write, hat]
      · simp [Intent.askedAt?, Registration.predicateAt?, Intent.write, Content.write, hat]
  | sort target direction => rfl
  | scope => rfl

/-! ## How many predicates are left -/

namespace Condition

/-- Put in one by one, as many predicates are left as there are different texts. -/
theorem length_upsertAll (ps : List Predicate) :
    (upsertAll ps []).length = (ps.map Predicate.fragment).toFinset.card := by
  have hkeyed : KeyedPredicates (upsertAll ps []) := KeyedPredicates.upsertAll ps List.nodup_nil
  have hsame : ((upsertAll ps []).map Predicate.fragment).toFinset =
      (ps.map Predicate.fragment).toFinset := by
    ext text
    rw [List.mem_toFinset, List.mem_toFinset, mem_fragments_upsertAll]
    simp
  rw [← hsame, List.toFinset_card_of_nodup hkeyed, List.length_map]

end Condition

/-! ## The same values in both dialects -/

/-- Either both dialects write the two alike, or neither does. -/
def Asked.AgreesWith (a b : Asked) : Prop :=
  ∀ d d' : Dialect, a.demand.text d = b.demand.text d → a.demand.text d' = b.demand.text d'

/-- If the dialects agree on which texts are there already, then one more predicate is put in at
the same place. -/
theorem exists_upsert_write {a : Asked} {us : List Asked} (hagree : ∀ u ∈ us, u.AgreesWith a) :
    ∃ us' : List Asked, (∀ u ∈ us', u = a ∨ u ∈ us) ∧
      ∀ d, Condition.upsert (a.write d) (us.map (Asked.write d)) = us'.map (Asked.write d) := by
  induction us with
  | nil => exact ⟨[a], fun u hu => .inl (List.mem_singleton.mp hu), fun d => rfl⟩
  | cons first rest ih =>
      have hfirst := hagree first List.mem_cons_self
      by_cases hsame : first.demand.text .mysql = a.demand.text .mysql
      · refine ⟨a :: rest, ?_, fun d => ?_⟩
        · intro u hu
          rcases List.mem_cons.mp hu with rfl | hu
          · exact .inl rfl
          · exact .inr (List.mem_cons_of_mem _ hu)
        · have htext : (first.write d).fragment = (a.write d).fragment := hfirst .mysql d hsame
          rw [List.map_cons, Condition.upsert, if_pos htext, List.map_cons]
      · obtain ⟨us', hmem, hput⟩ := ih fun u hu => hagree u (List.mem_cons_of_mem _ hu)
        refine ⟨first :: us', ?_, fun d => ?_⟩
        · intro u hu
          rcases List.mem_cons.mp hu with rfl | hu
          · exact .inr List.mem_cons_self
          · exact (hmem u hu).imp id (List.mem_cons_of_mem _)
        · have htext : ¬ (first.write d).fragment = (a.write d).fragment :=
            fun he => hsame (hfirst d .mysql he)
          rw [List.map_cons, Condition.upsert, if_neg htext, hput d, List.map_cons]

/-- If the dialects agree on which texts are the same, then the same of the predicates that are
asked for are left in both. -/
theorem exists_upsertAll_write {qs : List Asked} (hagree : ∀ a ∈ qs, ∀ b ∈ qs, a.AgreesWith b) :
    ∃ us : List Asked, (∀ u ∈ us, u ∈ qs) ∧
      ∀ d, Condition.upsertAll (qs.map (Asked.write d)) [] = us.map (Asked.write d) := by
  induction qs using List.reverseRecOn with
  | nil => exact ⟨[], fun u hu => hu, fun d => rfl⟩
  | append_singleton qs a ih =>
      have hold : ∀ {u : Asked}, u ∈ qs → u ∈ qs ++ [a] := List.mem_append_left [a]
      have hnew : a ∈ qs ++ [a] := List.mem_append_right qs (List.mem_singleton.mpr rfl)
      obtain ⟨us, hus, hall⟩ := ih fun u hu v hv => hagree u (hold hu) v (hold hv)
      obtain ⟨us', hus', hput⟩ :=
        exists_upsert_write fun u hu => hagree u (hold (hus u hu)) a hnew
      refine ⟨us', ?_, fun d => ?_⟩
      · intro u hu
        rcases hus' u hu with rfl | hu
        · exact hnew
        · exact hold (hus u hu)
      · rw [← hput d, ← hall d, List.map_append, Condition.upsertAll, List.foldl_append]
        rfl

theorem map_params_upsertAll_write {qs : List Asked}
    (hagree : ∀ a ∈ qs, ∀ b ∈ qs, a.AgreesWith b) (d d' : Dialect) :
    (Condition.upsertAll (qs.map (Asked.write d)) []).map Predicate.params =
      (Condition.upsertAll (qs.map (Asked.write d')) []).map Predicate.params := by
  obtain ⟨us, -, hall⟩ := exists_upsertAll_write hagree
  rw [hall d, hall d', List.map_map, List.map_map]
  rfl

/-! ## Corresponding scopes -/

/-- Paths of plain joins that Postgres writes alike are written alike by MySQL, too. -/
theorem Hop.map_clause_mysql_eq_of_postgres {hops : List Hop} (hplain : ∀ hop ∈ hops, hop.Plain) :
    ∀ {hops' : List Hop}, (∀ hop ∈ hops', hop.Plain) →
      hops.map (Hop.clause .postgres) = hops'.map (Hop.clause .postgres) →
        hops.map (Hop.clause .mysql) = hops'.map (Hop.clause .mysql) := by
  induction hops with
  | nil =>
      intro hops' _ heq
      rw [List.map_nil, eq_comm, List.map_eq_nil_iff] at heq
      rw [heq]
  | cons hop rest ih =>
      intro hops' hplain' heq
      cases hops' with
      | nil => cases heq
      | cons hop' rest' =>
          obtain ⟨hclause, hrest⟩ := List.cons.inj heq
          have hfirst := Hop.clause_mysql_eq_of_postgres (hplain hop List.mem_cons_self)
            (hplain' hop' List.mem_cons_self) hclause
          have htail := ih (fun h hmem => hplain h (List.mem_cons_of_mem _ hmem))
            (fun h hmem => hplain' h (List.mem_cons_of_mem _ hmem)) hrest
          rw [List.map_cons, List.map_cons, hfirst, htail]

/-- In corresponding scopes the same is asked for. -/
theorem askedAt_postgres {es : List Intent} (hes : ∀ e ∈ es, e.Plain) {hops : List Hop}
    (hhops : ∀ hop ∈ hops, hop.Plain) (group : Group) :
    askedAt .postgres (hops.map (Hop.clause .postgres)) group es =
      askedAt .mysql (hops.map (Hop.clause .mysql)) group es := by
  have hsame : ∀ {a b : List Hop}, (∀ hop ∈ a, hop.Plain) → (∀ hop ∈ b, hop.Plain) →
      a.map (Hop.clause .mysql) = b.map (Hop.clause .mysql) →
        a.map (Hop.clause .postgres) = b.map (Hop.clause .postgres) := by
    intro a b ha hb heq
    have hunticked := congrArg (List.map unticked) heq
    rwa [Hop.map_unticked_clause ha, Hop.map_unticked_clause hb] at hunticked
  refine List.filterMap_congr fun e he => ?_
  have hpath : e.path.map (Hop.clause .postgres) = hops.map (Hop.clause .postgres) ↔
      e.path.map (Hop.clause .mysql) = hops.map (Hop.clause .mysql) :=
    ⟨Hop.map_clause_mysql_eq_of_postgres (hes e he).path hhops, hsame (hes e he).path hhops⟩
  unfold Intent.askedAt?
  simp only [hpath]

/-- Which scopes there are does not depend on the dialect, but for how their paths are written. -/
theorem exists_hasScope_write_iff (d : Dialect) (es : List Intent) (path : List String) :
    (∃ t, (Condition.empty.registerAll (es.map (Intent.write d))).HasScope path t) ↔
      ∃ hops, path = hops.map (Hop.clause d) ∧ (hops = [] ∨ ∃ e ∈ es, hops <+: e.path) := by
  rw [Condition.exists_hasScope_registerAll_iff]
  constructor
  · rintro (rfl | ⟨r, hr, rest, hlead⟩)
    · exact ⟨[], rfl, .inl rfl⟩
    · obtain ⟨e, he, rfl⟩ := List.mem_map.mp hr
      obtain ⟨hops, after, hsplit, rfl, -⟩ := List.map_eq_append_iff.mp hlead.symm
      exact ⟨hops, rfl, .inr ⟨e, he, after, hsplit.symm⟩⟩
  · rintro ⟨hops, rfl, rfl | ⟨e, he, hway⟩⟩
    · exact .inl rfl
    · exact .inr ⟨_, List.mem_map_of_mem he, hway.map _⟩

/-! ## Matches in both ways -/

/-- In the scope that the path leads to in MySQL and in the group, a column is asked to match
with regard to case and also without. -/
def Filter.MixesCase (f : Filter) (path : List String) (group : Group) : Prop :=
  ∃ target params params',
    (⟨.about target (.like false), params⟩ : Asked) ∈ askedAt .mysql path group f.intents ∧
      (⟨.about target (.like true), params'⟩ : Asked) ∈ askedAt .mysql path group f.intents

theorem ColumnTest.like_of_heedCase_eq {a b : ColumnTest} (h : a.heedCase = b.heedCase)
    (hne : a ≠ b) : (a = .like false ∧ b = .like true) ∨ (a = .like true ∧ b = .like false) := by
  cases a with
  | like ignoreCase =>
      cases b with
      | like ignoreCase' => cases ignoreCase <;> cases ignoreCase' <;> simp at hne ⊢
      | _ => cases h
  | _ => cases b <;> first | exact absurd h hne | cases h

/-- Two demands that MySQL writes alike and Postgres does not ask one column for a match in both
ways. -/
theorem Demand.exists_like_of_heedCase_eq {a b : Demand} (h : a.heedCase = b.heedCase)
    (hne : a ≠ b) : ∃ target, (a = .about target (.like false) ∧ b = .about target (.like true)) ∨
      (a = .about target (.like true) ∧ b = .about target (.like false)) := by
  cases a with
  | never =>
      cases b with
      | never => exact absurd rfl hne
      | about target test => cases h
  | about target test =>
      cases b with
      | never => cases h
      | about target' test' =>
          simp only [heedCase, Demand.about.injEq] at h
          obtain ⟨rfl, htest⟩ := h
          have hother : test ≠ test' := fun he => hne (by rw [he])
          refine ⟨target, ?_⟩
          rcases ColumnTest.like_of_heedCase_eq htest hother with ⟨rfl, rfl⟩ | ⟨rfl, rfl⟩
          · exact .inl ⟨rfl, rfl⟩
          · exact .inr ⟨rfl, rfl⟩

section Asked

variable {qs : List Asked} (hplain : ∀ a ∈ qs, a.demand.Plain)
include hplain

/-- If no column is matched in both ways, the same values are left in both dialects. -/
theorem map_params_eq_of_unmixed
    (hunmixed : ∀ a ∈ qs, ∀ b ∈ qs, a.demand.heedCase = b.demand.heedCase →
      a.demand = b.demand) :
    (Condition.upsertAll (qs.map (Asked.write .mysql)) []).map Predicate.params =
      (Condition.upsertAll (qs.map (Asked.write .postgres)) []).map Predicate.params := by
  refine map_params_upsertAll_write (fun a ha b hb d d' htext => ?_) .mysql .postgres
  have hsame : a.demand = b.demand := by
    cases d with
    | mysql =>
        exact hunmixed a ha b hb
          ((Demand.text_mysql_eq_iff (hplain a ha) (hplain b hb)).mp htext)
    | postgres => exact Demand.text_postgres_inj (hplain a ha) (hplain b hb) htext
  rw [hsame]

/-- If a column is matched in both ways, MySQL is left with fewer predicates. -/
theorem length_lt_of_mixed {a b : Asked} (ha : a ∈ qs) (hb : b ∈ qs) (hne : a.demand ≠ b.demand)
    (hcase : a.demand.heedCase = b.demand.heedCase) :
    (Condition.upsertAll (qs.map (Asked.write .mysql)) []).length <
      (Condition.upsertAll (qs.map (Asked.write .postgres)) []).length := by
  have hlength : ∀ d, (Condition.upsertAll (qs.map (Asked.write d)) []).length =
      ((qs.map Asked.demand).toFinset.image (Demand.text d)).card := by
    intro d
    have htexts : ((qs.map (Asked.write d)).map Predicate.fragment).toFinset =
        (qs.map Asked.demand).toFinset.image (Demand.text d) := by
      ext text
      simp [Asked.write]
    rw [Condition.length_upsertAll, htexts]
  have hmem : ∀ {c : Asked}, c ∈ qs → c.demand ∈ (qs.map Asked.demand).toFinset :=
    fun hc => List.mem_toFinset.mpr (List.mem_map_of_mem hc)
  have hpostgres : ((qs.map Asked.demand).toFinset.image (Demand.text .postgres)).card =
      (qs.map Asked.demand).toFinset.card := by
    refine Finset.card_image_of_injOn fun q hq q' hq' htext => ?_
    rw [Finset.mem_coe, List.mem_toFinset] at hq hq'
    obtain ⟨c, hc, rfl⟩ := List.mem_map.mp hq
    obtain ⟨c', hc', rfl⟩ := List.mem_map.mp hq'
    exact Demand.text_postgres_inj (hplain c hc) (hplain c' hc') htext
  have hmysql : a.demand.text .mysql = b.demand.text .mysql :=
    (Demand.text_mysql_eq_iff (hplain a ha) (hplain b hb)).mpr hcase
  rw [hlength, hlength, hpostgres]
  refine lt_of_le_of_ne Finset.card_image_le fun he => hne ?_
  exact Finset.card_image_iff.mp he (hmem ha) (hmem hb) hmysql

end Asked

namespace Compiler

/-- **MySQL loses predicates exactly where a column is matched in both ways.**  With bare names
the two dialects open the same scopes, up to backticks.  In a scope and a group they register the
same parameters in the same order, unless some column is asked there for a match with regard to
case and also for one without; then MySQL registers fewer predicates. -/
theorem params_agree_unless_mixesCase {maxDepth : Nat} {f : Filter}
    {condition condition' : Condition}
    (hmysql : (⟨.mysql, maxDepth⟩ : Compiler).compile f = .ok condition)
    (hpostgres : (⟨.postgres, maxDepth⟩ : Compiler).compile f = .ok condition')
    (hnamed : f.Named Bare) :
    (∀ path, (∃ t, condition.HasScope path t) →
        ∃ t', condition'.HasScope (path.map unticked) t') ∧
      (∀ path', (∃ t', condition'.HasScope path' t') →
        ∃ path, path.map unticked = path' ∧ ∃ t, condition.HasScope path t) ∧
      ∀ path t t', condition.HasScope path t → condition'.HasScope (path.map unticked) t' →
        ∀ group,
          (¬ f.MixesCase path group → (t.predicates group).map Predicate.params =
            (t'.predicates group).map Predicate.params) ∧
          (f.MixesCase path group →
            (t.predicates group).length < (t'.predicates group).length) := by
  have hes : ∀ e ∈ f.intents, e.Plain := fun e he => hnamed.plain_of_mem_intents he
  have hhops : ∀ hops : List Hop, (hops = [] ∨ ∃ e ∈ f.intents, hops <+: e.path) →
      ∀ hop ∈ hops, hop.Plain := by
    rintro hops (rfl | ⟨e, he, hlead⟩) hop hmem
    · cases hmem
    · exact (hes e he).path hop (hlead.subset hmem)
  rw [eq_registerAll_intents hmysql, eq_registerAll_intents hpostgres]
  refine ⟨?_, ?_, ?_⟩
  · intro path hscope
    obtain ⟨hops, rfl, hlead⟩ := (exists_hasScope_write_iff .mysql f.intents path).mp hscope
    rw [Hop.map_unticked_clause (hhops hops hlead), exists_hasScope_write_iff]
    exact ⟨hops, rfl, hlead⟩
  · intro path' hscope
    obtain ⟨hops, rfl, hlead⟩ := (exists_hasScope_write_iff .postgres f.intents path').mp hscope
    refine ⟨hops.map (Hop.clause .mysql), Hop.map_unticked_clause (hhops hops hlead), ?_⟩
    rw [exists_hasScope_write_iff]
    exact ⟨hops, rfl, hlead⟩
  · intro path t t' ht ht' group
    obtain ⟨hops, rfl, hlead⟩ := (exists_hasScope_write_iff .mysql f.intents path).mp ⟨t, ht⟩
    rw [Hop.map_unticked_clause (hhops hops hlead)] at ht'
    have hasked := askedAt_postgres hes (hhops hops hlead) group
    rw [ht.predicates_eq, ht'.predicates_eq, filterMap_predicateAt?_write,
      filterMap_predicateAt?_write, hasked]
    have hplain : ∀ a ∈ askedAt .mysql (hops.map (Hop.clause .mysql)) group f.intents,
        a.demand.Plain := by
      intro a ha
      obtain ⟨e, he, -, hcontent⟩ := mem_askedAt.mp ha
      exact (hes e he).demand hcontent
    constructor
    · intro hunmixed
      refine map_params_eq_of_unmixed hplain fun a ha b hb hcase => ?_
      by_contra hne
      rcases a with ⟨demand, params⟩
      rcases b with ⟨demand', params'⟩
      obtain ⟨target, ⟨rfl, rfl⟩ | ⟨rfl, rfl⟩⟩ := Demand.exists_like_of_heedCase_eq hcase hne
      · exact hunmixed ⟨target, params, params', ha, hb⟩
      · exact hunmixed ⟨target, params', params, hb, ha⟩
    · rintro ⟨target, params, params', ha, hb⟩
      exact length_lt_of_mixed hplain ha hb (by simp) rfl

/-- Users by two parts of one name, the second of them in any case. -/
def usersByNames : Filter :=
  ⟨"users", [⟨"name", some "type:like", false, .scalar (.text "bo")⟩,
    ⟨"nick", some "type:ilike;column:name", false, .scalar (.text "al")⟩]⟩

/-- What that filter asks of MySQL: the first part of the name is gone. -/
def usersByNamesMysql : Condition :=
  ⟨[⟨"\x60users\x60.\x60name\x60 like ?", [.text "%al%"]⟩], [], [], []⟩

/-- What that filter asks of Postgres. -/
def usersByNamesPostgres : Condition :=
  ⟨[⟨"users.name like ?", [.text "%bo%"]⟩, ⟨"users.name ilike ?", [.text "%al%"]⟩], [], [], []⟩

theorem params_agree_unless_mixesCase_usersByNames :
    (⟨.mysql, defaultMaxDepth⟩ : Compiler).compile usersByNames = .ok usersByNamesMysql ∧
      (⟨.postgres, defaultMaxDepth⟩ : Compiler).compile usersByNames =
        .ok usersByNamesPostgres ∧
      usersByNames.Named Bare ∧ usersByNames.MixesCase [] .and ∧
        usersByNamesMysql.wheres.length < usersByNamesPostgres.wheres.length := by
  have hmysql : (⟨.mysql, defaultMaxDepth⟩ : Compiler).compile usersByNames =
      .ok usersByNamesMysql := by decide +kernel
  have hpostgres : (⟨.postgres, defaultMaxDepth⟩ : Compiler).compile usersByNames =
      .ok usersByNamesPostgres := by decide +kernel
  have hnamed : usersByNames.Named Bare := by decide +kernel
  have hmixed : usersByNames.MixesCase [] .and :=
    ⟨⟨"users", "name"⟩, [.text "%bo%"], [.text "%al%"], by decide +kernel, by decide +kernel⟩
  have hagree := params_agree_unless_mixesCase hmysql hpostgres hnamed
  exact ⟨hmysql, hpostgres, hnamed, hmixed,
    (hagree.2.2 [] _ _ (.root _) (.root _) .and).2 hmixed⟩

/-- It does happen that the dialects are left with different values. -/
theorem not_params_agree_usersByNames :
    ¬ ∀ (maxDepth : Nat) (f : Filter) (condition condition' : Condition),
      f.Named AsciiName →
      (⟨.mysql, maxDepth⟩ : Compiler).compile f = .ok condition →
        (⟨.postgres, maxDepth⟩ : Compiler).compile f = .ok condition' →
          ∀ path t t', condition.HasScope path t → condition'.HasScope (path.map unticked) t' →
            t.wheres.map Predicate.params = t'.wheres.map Predicate.params := by
  intro h
  have hmysql : (⟨.mysql, defaultMaxDepth⟩ : Compiler).compile usersByNames =
      .ok usersByNamesMysql := by decide +kernel
  have hpostgres : (⟨.postgres, defaultMaxDepth⟩ : Compiler).compile usersByNames =
      .ok usersByNamesPostgres := by decide +kernel
  have hascii : usersByNames.Named AsciiName := by decide +kernel
  have hparams := h defaultMaxDepth usersByNames _ _ hascii hmysql hpostgres [] _ _ (.root _)
    (.root _)
  exact absurd hparams (by decide)

end Compiler

end SqlFilter
