import SqlFilter.Proofs.Intent
import SqlFilter.Proofs.Texts

/-!
# Two dialects up to quoting

Both dialects accept the same filters, and refuse the others with the same error.  What they make
of a filter differs in the backticks, as far as the filter asks for no match without regard to case.

For single texts that is plain to see.  But predicates and joins are keyed by their texts, so it
also has to be shown that one dialect never takes two texts for one where the other keeps them
apart.  This is where names come in: with bare names a text can be read back without its
backticks.

## Main results

* `Filter.HeedsCase`: no match without regard to case is asked for.
* `Compiler.mapTexts_unticked_registerAll`: backticks keep no two texts apart.
* `Compiler.dialects_differ_in_quoting`.
-/

namespace SqlFilter

/-! ## Matches without regard to case -/

/-- No tag that a walk comes to asks for a match without regard to case. -/
def Filter.HeedsCase (f : Filter) : Prop :=
  ∀ s ∈ f.stops (.root f.table), ∀ tag, s.field.HasTag tag →
    tag.operator.isCaseInsensitive = false

/-- An intent that asks for no match without regard to case. -/
def Intent.HeedsCase (e : Intent) : Prop :=
  ∀ group asked, e.content = .test group asked → asked.demand.heedCase = asked.demand

theorem heedCase_of_asked? {target : Target} {op : Operator} {value : FieldValue} {asked : Asked}
    (h : asked? target op value = some asked) (hop : op.isCaseInsensitive = false) :
    asked.demand.heedCase = asked.demand := by
  unfold asked? at h
  split at h
  case h_2 anchor ignoreCase v =>
    have hcase : ignoreCase = false := hop
    cases h
    rw [hcase]
    rfl
  all_goals cases h <;> rfl

theorem Filter.HeedsCase.of_mem_intents {f : Filter} (h : f.HeedsCase) {e : Intent}
    (he : e ∈ f.intents) : e.HeedsCase := by
  intro group asked hcontent
  obtain ⟨s, hs, hintent⟩ := List.mem_filterMap.mp he
  obtain ⟨tag, inner, htag, -, hinner, rfl⟩ := Stop.exists_of_intent?_eq_some hintent
  exact heedCase_of_asked? (asked?_of_intent?_eq_test hinner hcontent) (h s hs tag htag)

/-! ## One intent in both dialects -/

/-- Without its backticks an intent is written by MySQL as by Postgres. -/
theorem Intent.mapTexts_write_mysql {e : Intent} (h : e.Plain) (hcase : e.HeedsCase) :
    (e.write .mysql).mapTexts unticked = e.write .postgres := by
  have hpath := Hop.map_unticked_clause h.path
  have hcontent : (e.content.write .mysql).mapText unticked = e.content.write .postgres := by
    cases hcontent : e.content with
    | test group asked =>
        show Clause.predicate group ⟨unticked (asked.demand.text .mysql), asked.params⟩ = _
        rw [Demand.unticked_text_mysql (h.demand hcontent), hcase group asked hcontent]
        rfl
    | sort target direction =>
        have hplain := h.content
        rw [hcontent] at hplain
        have hblank : unticked " " = " " := by decide
        have hname : unticked direction.name = direction.name := by cases direction <;> decide
        show Clause.order (unticked (Dialect.column .mysql target ++ " " ++ direction.name)) = _
        rw [unticked_append, unticked_append, hblank, hname, Dialect.column,
          unticked_qualify .mysql hplain.1 hplain.2]
        rfl
    | scope => rfl
  rw [Registration.mapTexts, write, write, hpath, hcontent]

/-- A predicate that is registered for a scope and a group was asked for there. -/
theorem Intent.exists_of_predicate_mem {d : Dialect} {es : List Intent} {path : List String}
    {group : Group} {p : Predicate} (h : ⟨path, .predicate group p⟩ ∈ es.map (Intent.write d)) :
    ∃ e ∈ es, ∃ asked, e.path.map (Hop.clause d) = path ∧ e.content = .test group asked ∧
      asked.write d = p := by
  obtain ⟨e, he, heq⟩ := List.mem_map.mp h
  rcases e with ⟨hops, content⟩
  cases content with
  | test g asked =>
      cases heq
      exact ⟨_, he, asked, rfl, rfl, rfl⟩
  | sort target direction => cases heq
  | scope => cases heq

namespace Compiler

/-- **Backticks keep no two texts apart**: those of plain intents can be taken out before the
intents are registered or after it. -/
theorem mapTexts_unticked_registerAll {es : List Intent} (hplain : ∀ e ∈ es, e.Plain) :
    (Condition.empty.registerAll (es.map (Intent.write .mysql))).mapTexts unticked =
      Condition.empty.registerAll
        ((es.map (Intent.write .mysql)).map (Registration.mapTexts unticked)) := by
  have hhop : ∀ r ∈ es.map (Intent.write .mysql), ∀ on ∈ r.path,
      ∃ hop : Hop, hop.Plain ∧ on = hop.clause .mysql := by
    intro r hr on hon
    obtain ⟨e, he, rfl⟩ := List.mem_map.mp hr
    obtain ⟨hop, hmem, rfl⟩ := List.mem_map.mp hon
    exact ⟨hop, (hplain e he).path hop hmem, rfl⟩
  have hdemand : ∀ path group p, ⟨path, .predicate group p⟩ ∈ es.map (Intent.write .mysql) →
      ∃ q : Demand, q.Plain ∧ p.fragment = q.text .mysql := by
    intro path group p hp
    obtain ⟨e, he, asked, -, hcontent, rfl⟩ := Intent.exists_of_predicate_mem hp
    exact ⟨asked.demand, (hplain e he).demand hcontent, rfl⟩
  refine Condition.mapTexts_registerAll ?_ ?_
  · intro r hr r' hr' on hon on' hon' hunticked
    obtain ⟨hop, hhopPlain, rfl⟩ := hhop r hr on hon
    obtain ⟨hop', hhopPlain', rfl⟩ := hhop r' hr' on' hon'
    rw [Hop.unticked_clause hhopPlain, Hop.unticked_clause hhopPlain'] at hunticked
    exact Hop.clause_mysql_eq_of_postgres hhopPlain hhopPlain' hunticked
  · intro path group p q hp hq hunticked
    obtain ⟨a, ha, hpText⟩ := hdemand path group p hp
    obtain ⟨b, hb, hqText⟩ := hdemand path group q hq
    rw [hpText, hqText, Demand.unticked_text_mysql ha, Demand.unticked_text_mysql hb] at hunticked
    rw [hpText, hqText, Demand.text_mysql_eq_iff ha hb]
    exact Demand.text_postgres_inj ha.heedCase hb.heedCase hunticked

/-- **The dialects accept the same filters and differ only in quoting.**  They compile the same
filters, and refuse the others with the same error.  If no match without regard to case is asked
for and the names are bare, then what Postgres makes of a filter is what MySQL makes of it,
without the backticks: every text is the same but for them, and all parameters, places and joins
are the same. -/
theorem dialects_differ_in_quoting (maxDepth : Nat) (f : Filter) :
    ((∃ condition condition', (⟨.mysql, maxDepth⟩ : Compiler).compile f = .ok condition ∧
          (⟨.postgres, maxDepth⟩ : Compiler).compile f = .ok condition') ∨
        ∃ e, (⟨.mysql, maxDepth⟩ : Compiler).compile f = .error e ∧
          (⟨.postgres, maxDepth⟩ : Compiler).compile f = .error e) ∧
      ∀ condition condition', (⟨.mysql, maxDepth⟩ : Compiler).compile f = .ok condition →
        (⟨.postgres, maxDepth⟩ : Compiler).compile f = .ok condition' →
          f.HeedsCase → f.Named Bare → condition' = condition.mapTexts unticked := by
  have herror := error_trace_eq .mysql .postgres maxDepth f f.table
  constructor
  · cases htrace : ((⟨.mysql, maxDepth⟩ : Compiler).trace 0 f.table f).error with
    | none =>
        rw [htrace] at herror
        exact .inl ⟨_, _, (compile_eq_ok_iff _ f _).mpr ⟨htrace, rfl⟩,
          (compile_eq_ok_iff _ f _).mpr ⟨herror.symm, rfl⟩⟩
    | some e =>
        rw [htrace] at herror
        exact .inr ⟨e, (compile_eq_error_iff _ f e).mpr htrace,
          (compile_eq_error_iff _ f e).mpr herror.symm⟩
  · intro condition condition' hmysql hpostgres hcase hnamed
    have hplain : ∀ e ∈ f.intents, e.Plain := fun e he => hnamed.plain_of_mem_intents he
    have hwritten : (f.intents.map (Intent.write .mysql)).map (Registration.mapTexts unticked) =
        f.intents.map (Intent.write .postgres) := by
      rw [List.map_map]
      exact List.map_congr_left fun e he =>
        Intent.mapTexts_write_mysql (hplain e he) (hcase.of_mem_intents he)
    rw [eq_registerAll_intents hmysql, eq_registerAll_intents hpostgres,
      mapTexts_unticked_registerAll hplain, hwritten]

/-- Users by their age and by their orders, which are come back to after the sort field. The age
is asked for twice. -/
def usersByAgeAndOrders : Filter :=
  ⟨"users", [⟨"Age", some "type:gte", false, .scalar (.int 18)⟩,
    ⟨"Orders", some "type:join;join:orders;on:user_id,id", false, .nested ⟨"orders",
      [⟨"Status", some "type:in", false, .list [.text "new", .text "paid"]⟩]⟩⟩,
    ⟨"Sort", some "type:order", false, .scalar (.text "order[createdAt]=desc")⟩,
    ⟨"AdultAge", some "type:gte;column:age", false, .scalar (.int 21)⟩,
    ⟨"MoreOrders", some "type:join;join:orders;on:user_id,id", false, .nested ⟨"",
      [⟨"Name", some "type:left;group:or", false, .scalar (.text "A-")⟩]⟩⟩]⟩

/-- What that filter asks of MySQL. -/
def usersByAgeAndOrdersCondition : Condition :=
  ⟨[⟨"\x60users\x60.\x60age\x60 >= ?", [.int 21]⟩], [],
    ["\x60users\x60.\x60created_at\x60 desc"],
    [⟨"LEFT JOIN \x60orders\x60 ON \x60orders\x60.\x60user_id\x60 = \x60users\x60.\x60id\x60",
      ⟨[⟨"\x60orders\x60.\x60status\x60 in (?, ?)", [.text "new", .text "paid"]⟩],
        [⟨"\x60orders\x60.\x60name\x60 like ?", [.text "A-%"]⟩], [], []⟩⟩]⟩

theorem dialects_differ_in_quoting_usersByAgeAndOrders :
    (⟨.mysql, defaultMaxDepth⟩ : Compiler).compile usersByAgeAndOrders =
        .ok usersByAgeAndOrdersCondition ∧
      usersByAgeAndOrders.HeedsCase ∧ usersByAgeAndOrders.Named Bare ∧
        (⟨.postgres, defaultMaxDepth⟩ : Compiler).compile usersByAgeAndOrders =
          .ok (usersByAgeAndOrdersCondition.mapTexts unticked) := by
  have hcompile : (⟨.mysql, defaultMaxDepth⟩ : Compiler).compile usersByAgeAndOrders =
      .ok usersByAgeAndOrdersCondition := by decide +kernel
  have hascii : usersByAgeAndOrders.Named AsciiName := by decide +kernel
  have hnamed : usersByAgeAndOrders.Named Bare :=
    Filter.Named.mono (fun _ => AsciiName.bare) _ hascii
  have htags : ∀ s ∈ usersByAgeAndOrders.stops (.root "users"), ∀ tag ∈ s.field.readTag,
      tag.operator.isCaseInsensitive = false := by decide +kernel
  have hcase : usersByAgeAndOrders.HeedsCase :=
    fun s hs tag htag => htags s hs tag (Field.readTag_eq_some_iff.mpr htag)
  obtain ⟨hsame, hquoting⟩ := dialects_differ_in_quoting defaultMaxDepth usersByAgeAndOrders
  refine ⟨hcompile, hcase, hnamed, ?_⟩
  rcases hsame with ⟨condition, condition', hmysql, hpostgres⟩ | ⟨e, hmysql, -⟩
  · rw [hpostgres, hquoting condition condition' hmysql hpostgres hcase hnamed]
    rw [hcompile] at hmysql
    cases hmysql
    rfl
  · rw [hcompile] at hmysql
    cases hmysql

end Compiler

end SqlFilter
