import SqlFilter.Proofs.Keyed
import SqlFilter.Proofs.Offence
import SqlFilter.Proofs.Rendering
import SqlFilter.Proofs.ScopeRuns
import Mathlib.Data.Finset.Card

/-!
# Joins that a statement repeats

A join that is opened again in its scope is not opened twice.  But a scope only knows its own
joins, and a statement takes the joins of all of them.  So a statement has a join once for each
scope in which it is opened, and the same text twice if it is opened in two scopes.  The table of
a scope goes by its own name in the text, so this happens where a table is joined to itself twice
over, or where a field in a joined filter goes back to the table outside.

A path of joins leads to one scope only, and so the join scopes of a condition can be told apart
by their paths.  Which paths there are is read off the visited fields: every join on the way to a
field was opened by a field before it.

## Main results

* `Condition.joinPaths`, `Condition.nodup_joinPaths`: join scopes, told apart by their paths.
* `Filter.opened_on_the_way`: the joins on the way to a visited field.
* `Compiler.joins_once_in_each_scope`.
-/

namespace SqlFilter

/-! ## The paths of join scopes -/

mutual
/-- The path of every join scope, in the order in which a statement takes the joins. -/
def Condition.joinPaths : Condition → List (List String)
  | ⟨_, _, _, joins⟩ => Condition.pathsOfScopes joins

/-- The paths that lead into one of the joins of a scope. -/
def Condition.pathsOfScopes : List JoinScope → List (List String)
  | [] => []
  | s :: rest => Condition.pathsOfScope s ++ Condition.pathsOfScopes rest

/-- The paths that lead into a join. -/
def Condition.pathsOfScope : JoinScope → List (List String)
  | ⟨on, condition⟩ => [on] :: condition.joinPaths.map (on :: ·)
end

namespace Condition

theorem joinPaths_eq (c : Condition) : c.joinPaths = pathsOfScopes c.joins := by
  cases c
  rfl

theorem mem_pathsOfScope {path : List String} {s : JoinScope} :
    path ∈ pathsOfScope s ↔
      path = [s.on] ∨ ∃ rest ∈ s.condition.joinPaths, path = s.on :: rest := by
  cases s
  simp [pathsOfScope, eq_comm]

theorem mem_pathsOfScopes {path : List String} {joins : List JoinScope} :
    path ∈ pathsOfScopes joins ↔ ∃ s ∈ joins, path ∈ pathsOfScope s := by
  induction joins with
  | nil => simp [pathsOfScopes]
  | cons s rest ih => simp [pathsOfScopes, ih]

theorem ne_nil_of_mem_joinPaths {path : List String} {c : Condition} (h : path ∈ c.joinPaths) :
    path ≠ [] := by
  rw [joinPaths_eq, mem_pathsOfScopes] at h
  obtain ⟨s, -, hpath⟩ := h
  rcases mem_pathsOfScope.mp hpath with rfl | ⟨rest, -, rfl⟩
  · exact List.cons_ne_nil _ _
  · exact List.cons_ne_nil _ _

/-- There is a join scope at the end of a path exactly if the path is listed. -/
theorem mem_joinPaths_iff : ∀ {path : List String} {c : Condition},
    path ∈ c.joinPaths ↔ path ≠ [] ∧ ∃ t, c.HasScope path t := by
  intro path
  induction path with
  | nil =>
      intro c
      exact ⟨fun h => absurd rfl (ne_nil_of_mem_joinPaths h), fun h => absurd rfl h.1⟩
  | cons on path ih =>
      intro c
      rw [joinPaths_eq, mem_pathsOfScopes]
      constructor
      · rintro ⟨s, hs, hpath⟩
        refine ⟨List.cons_ne_nil _ _, ?_⟩
        rcases mem_pathsOfScope.mp hpath with hpath | ⟨rest, hrest, hpath⟩
        · cases hpath
          exact ⟨_, .join hs (.root _)⟩
        · cases hpath
          obtain ⟨-, t, ht⟩ := ih.mp hrest
          exact ⟨t, .join hs ht⟩
      · rintro ⟨-, t, ht⟩
        cases ht with
        | @join _ _ s _ hs inner =>
            refine ⟨s, hs, mem_pathsOfScope.mpr ?_⟩
            by_cases hpath : path = []
            · exact .inl (by rw [hpath])
            · exact .inr ⟨path, ih.mpr ⟨hpath, t, inner⟩, rfl⟩

mutual
/-- Join scopes are listed as their paths are, each with the join that ends its path. -/
theorem map_getLast?_joinPaths : ∀ c : Condition,
    c.joinPaths.map List.getLast? = c.flattenJoins.map fun s => some s.on
  | ⟨_, _, _, joins⟩ => map_getLast?_pathsOfScopes joins

theorem map_getLast?_pathsOfScopes : ∀ joins : List JoinScope,
    (pathsOfScopes joins).map List.getLast? = (flattenScopes joins).map fun s => some s.on
  | [] => rfl
  | s :: rest => by
      rw [pathsOfScopes, flattenScopes, List.map_append, map_getLast?_pathsOfScope s,
        map_getLast?_pathsOfScopes rest, List.map_cons, List.map_append, List.cons_append]

theorem map_getLast?_pathsOfScope : ∀ s : JoinScope,
    (pathsOfScope s).map List.getLast? = some s.on :: (flattenScope s).map fun s => some s.on
  | ⟨on, condition⟩ => by
      have hinner : (condition.joinPaths.map (on :: ·)).map List.getLast? =
          condition.joinPaths.map List.getLast? := by
        rw [List.map_map]
        refine List.map_congr_left fun path hpath => ?_
        exact List.getLast?_cons_of_ne_nil (ne_nil_of_mem_joinPaths hpath)
      rw [pathsOfScope, flattenScope, List.map_cons, hinner, map_getLast?_joinPaths condition]
      rfl
end

mutual
/-- **No path leads to two join scopes** of a keyed condition. -/
theorem nodup_joinPaths : ∀ c : Condition, c.Keyed → c.joinPaths.Nodup
  | ⟨_, _, _, joins⟩, h => nodup_pathsOfScopes joins h.2.2.1 h.2.2.2

theorem nodup_pathsOfScopes : ∀ joins : List JoinScope, (joins.map JoinScope.on).Nodup →
    KeyedScopes joins → (pathsOfScopes joins).Nodup
  | [], _, _ => List.nodup_nil
  | s :: rest, hons, hkeyed => by
      rw [List.map_cons, List.nodup_cons] at hons
      refine List.nodup_append.mpr
        ⟨nodup_pathsOfScope s hkeyed.1, nodup_pathsOfScopes rest hons.2 hkeyed.2, ?_⟩
      -- Paths into different joins differ in their first step.
      rintro path hpath _ hother rfl
      have hhead : ∀ {s : JoinScope}, path ∈ pathsOfScope s → path.head? = some s.on := by
        intro s hs
        rcases mem_pathsOfScope.mp hs with rfl | ⟨_, -, rfl⟩ <;> rfl
      obtain ⟨s', hs', hother⟩ := mem_pathsOfScopes.mp hother
      have hon : s.on = s'.on := Option.some.inj ((hhead hpath).symm.trans (hhead hother))
      exact hons.1 (hon ▸ List.mem_map_of_mem hs')

theorem nodup_pathsOfScope : ∀ s : JoinScope, KeyedScope s → (pathsOfScope s).Nodup
  | ⟨on, condition⟩, hkeyed => by
      have hinner : (condition.joinPaths.map (on :: ·)).Nodup :=
        (nodup_joinPaths condition hkeyed).map fun _ _ h => (List.cons.inj h).2
      refine List.nodup_cons.mpr ⟨fun hmem => ?_, hinner⟩
      obtain ⟨path, hpath, heq⟩ := List.mem_map.mp hmem
      exact ne_nil_of_mem_joinPaths hpath (List.cons.inj heq).2
end

/-- A statement takes a join once for each scope that has it. -/
theorem exists_scopes_of_count {c : Condition} (h : c.Keyed) (on : String) :
    ∃ scopes : List (List String), scopes.Nodup ∧
      (∀ path, path ∈ scopes ↔ ∃ t, c.HasScope (path ++ [on]) t) ∧
      (c.flattenJoins.map JoinScope.on).count on = scopes.length := by
  let ending := c.joinPaths.filter fun path => path.getLast? == some on
  have hending : ∀ path ∈ ending, path.dropLast ++ [on] = path := by
    intro path hpath
    have hlast : path.getLast? = some on := by simpa using (List.mem_filter.mp hpath).2
    exact List.dropLast_append_getLast? on hlast
  refine ⟨ending.map List.dropLast, ?_, fun path => ?_, ?_⟩
  · refine ((nodup_joinPaths c h).filter _).map_on fun path hpath path' hpath' heq => ?_
    rw [← hending path hpath, ← hending path' hpath', heq]
  · have hmem : path ++ [on] ∈ c.joinPaths ↔ ∃ t, c.HasScope (path ++ [on]) t := by
      rw [mem_joinPaths_iff]
      exact and_iff_right (List.append_ne_nil_of_right_ne_nil _ (List.cons_ne_nil _ _))
    rw [← hmem, List.mem_map]
    constructor
    · rintro ⟨whole, hwhole, rfl⟩
      rw [hending whole hwhole]
      exact (List.mem_filter.mp hwhole).1
    · intro hpath
      exact ⟨path ++ [on], List.mem_filter.mpr ⟨hpath, by simp⟩, List.dropLast_concat⟩
  · calc (c.flattenJoins.map JoinScope.on).count on
        = ((c.flattenJoins.map JoinScope.on).map some).count (some on) :=
          (List.count_map_of_injective _ some (Option.some_injective _) on).symm
      _ = (c.joinPaths.map List.getLast?).count (some on) := by
          rw [map_getLast?_joinPaths, List.map_map]
          rfl
      _ = ending.length := by
          rw [List.count, List.countP_map, List.countP_eq_length_filter]
          rfl
      _ = (ending.map List.dropLast).length := (List.length_map _).symm

end Condition

/-! ## Fields that open joins -/

/-- The visited field opens the join in its scope. -/
def Visit.Opens (d : Dialect) (v : Visit) (on : String) : Prop :=
  ∃ tag joined, v.Emits d tag (.join on joined)

/-- A field under a join tag opens its join, if it holds a filter and is not zero. -/
theorem Visit.opens_of_join {text : String} {tag : Tag} {join : JoinTarget} {inner : Filter}
    (hparse : Tag.parse text = .ok (some tag)) (hjoin : tag.join = some join) (d : Dialect)
    (p : Place) (name : String) :
    Visit.Opens d ⟨p, ⟨name, some text, false, .nested inner⟩⟩
      (d.joinClause join (Compiler.target tag p.table name)) := by
  have hop : tag.operator = .join :=
    (Tag.operator_eq_join_iff_of_parse hparse).mpr ⟨join, hjoin⟩
  refine ⟨tag, join.table, ⟨text, rfl, hparse⟩, rfl, ?_⟩
  simp [emit, hop, hjoin]

section OnTheWay

variable {d : Dialect} {v : Visit} {before lead : List String} {on : String}

/-- The join at the end of a path lies on the way to where the walk starts, or one of the visited
fields opens it. -/
def JoinOpened (d : Dialect) (before lead : List String) (on : String) (visits : List Visit) :
    Prop :=
  lead ++ [on] <+: before ∨ ∃ w ∈ visits, w.place.path = lead ∧ w.Opens d on

theorem JoinOpened.mono {visits visits' : List Visit} (h : JoinOpened d before lead on visits)
    (hsubset : visits ⊆ visits') : JoinOpened d before lead on visits' :=
  h.imp_right fun ⟨w, hw, hopens⟩ => ⟨w, hsubset hw, hopens⟩

mutual
/-- **Every join on the way to a visited field was opened by a visited field**, if it does not lie
on the way to where the walk starts. -/
theorem Filter.opened_on_the_way (hway : lead ++ [on] <+: v.place.path) :
    ∀ (f : Filter) (p : Place), v ∈ f.visits d p → JoinOpened d p.path lead on (f.visits d p)
  | ⟨table, fields⟩, p, hv => Field.opened_on_the_way_all hway fields (p.inTable table) hv

theorem Field.opened_on_the_way_all (hway : lead ++ [on] <+: v.place.path) :
    ∀ (fields : List Field) (p : Place), v ∈ Field.visitsAll d p fields →
      JoinOpened d p.path lead on (Field.visitsAll d p fields)
  | [], p, hv => by
      rw [Field.visitsAll] at hv
      cases hv
  | field :: rest, p, hv => by
      rw [Field.visitsAll] at hv ⊢
      rcases List.mem_append.mp hv with hv | hv
      · exact (Field.opened_on_the_way hway field p hv).mono (List.subset_append_left _ _)
      · exact (Field.opened_on_the_way_all hway rest p hv).mono (List.subset_append_right _ _)

theorem Field.opened_on_the_way (hway : lead ++ [on] <+: v.place.path) :
    ∀ (field : Field) (p : Place), v ∈ field.visits d p →
      JoinOpened d p.path lead on (field.visits d p)
  | ⟨name, none, isZero, value⟩, p, hv => by
      have hvalue := FieldValue.opened_on_the_way hway value p.inside
      rw [Field.visits] at hv ⊢
      rcases List.mem_cons.mp hv with rfl | hv
      · exact .inl hway
      · exact (hvalue hv).mono (List.subset_cons_self _ _)
  | ⟨name, some text, isZero, value⟩, p, hv => by
      have hvalue := fun on' table => FieldValue.opened_on_the_way hway value (p.joined on' table)
      rw [Field.visits] at hv ⊢
      rcases List.mem_cons.mp hv with rfl | hv
      · exact .inl hway
      · split at hv
        · rename_i tag hparse
          cases isZero with
          | true => cases hv
          | false =>
              cases hjoin : tag.join with
              | none =>
                  simp only [hjoin, Bool.false_eq_true, ↓reduceIte] at hv
                  cases hv
              | some join =>
                  simp only [hjoin, Bool.false_eq_true, ↓reduceIte] at hv ⊢
                  rcases hvalue _ _ hv with hbefore | hinside
                  · -- The join is the one that the field opens, or lies before it.
                    rcases List.prefix_concat_iff.mp hbefore with hlast | hbefore
                    · obtain ⟨rfl, hon⟩ := List.append_inj' hlast rfl
                      cases hon
                      cases value with
                      | nested inner =>
                          exact .inr ⟨_, List.mem_cons_self, rfl,
                            Visit.opens_of_join hparse hjoin d p name⟩
                      | null => cases hv
                      | scalar value => cases hv
                      | list values => cases hv
                    · exact .inl hbefore
                  · obtain ⟨w, hw, hopens⟩ := hinside
                    exact .inr ⟨w, List.mem_cons_of_mem _ hw, hopens⟩
        · cases hv

theorem FieldValue.opened_on_the_way (hway : lead ++ [on] <+: v.place.path) :
    ∀ (value : FieldValue) (p : Place), v ∈ value.visits d p →
      JoinOpened d p.path lead on (value.visits d p)
  | .nested inner, p, hv => Filter.opened_on_the_way hway inner p hv
  | .null, p, hv => by cases hv
  | .scalar value, p, hv => by cases hv
  | .list values, p, hv => by cases hv
end

end OnTheWay

/-- What a field registers that opens a join. -/
theorem Visit.Opens.registration?_eq {d : Dialect} {v : Visit} {on : String} (h : v.Opens d on) :
    v.registration? d = some ⟨v.place.path ++ [on], .scope⟩ := by
  obtain ⟨tag, joined, htag, hzero, hemit⟩ := h
  simp [registration?, Field.readTag_eq_some_iff.mpr htag, hzero, registered?, hemit,
    Emission.registration?]

/-! ## The joins of a compiled condition -/

namespace Compiler

variable {c : Compiler} {f : Filter} {condition : Condition}

/-- The join scopes of a compiled condition are those that visited fields open. -/
theorem exists_hasScope_iff_opens (hcompile : c.compile f = .ok condition) (path : List String)
    (on : String) :
    (∃ t, condition.HasScope (path ++ [on]) t) ↔
      ∃ v ∈ f.visits c.dialect (.root f.table), v.place.path = path ∧ v.Opens c.dialect on := by
  have hne : path ++ [on] ≠ [] :=
    List.append_ne_nil_of_right_ne_nil _ (List.cons_ne_nil _ _)
  constructor
  · rintro ⟨t, ht⟩
    obtain ⟨v, hv, hlead⟩ := (exists_visit_of_scope hcompile ht).resolve_left hne
    have hway : path ++ [on] <+: v.place.path → ∃ w ∈ f.visits c.dialect (.root f.table),
        w.place.path = path ∧ w.Opens c.dialect on := fun hway =>
      (Filter.opened_on_the_way hway f (.root f.table) hv).resolve_left fun hroot =>
        hne (List.prefix_nil.mp hroot)
    rcases hlead with hlead | ⟨tag, on', joined, hemits, hlead⟩
    · exact hway hlead
    · rcases List.prefix_concat_iff.mp hlead with hlast | hbefore
      · obtain ⟨rfl, hon⟩ := List.append_inj' hlast rfl
        cases hon
        exact ⟨v, hv, rfl, tag, joined, hemits⟩
      · exact hway hbefore
  · rintro ⟨v, hv, rfl, hopens⟩
    rw [((c.compile_eq_ok_iff_sound f condition).mp hcompile).2,
      Condition.exists_hasScope_registerAll_iff]
    exact .inr ⟨_, List.mem_filterMap.mpr ⟨v, hv, hopens.registration?_eq⟩, List.prefix_rfl⟩

/-- A list without repetitions has at most one item if all its items are the same. -/
private theorem length_le_one_iff {α : Type} [DecidableEq α] {xs : List α} (h : xs.Nodup) :
    xs.length ≤ 1 ↔ ∀ x ∈ xs, ∀ y ∈ xs, x = y := by
  rw [← List.toFinset_card_of_nodup h, Finset.card_le_one]
  simp only [List.mem_toFinset]

/-- **A statement has a join once for each scope in which it is opened.**  Within a scope no join
is open twice, whatever fields ask for it.  A join text stands in the list of joins as often as
there are scopes in which some field opens it, so the texts are pairwise distinct exactly if none
is opened in two scopes.  The statement has the texts of that list, one after the other. -/
theorem joins_once_in_each_scope (hcompile : c.compile f = .ok condition) :
    (∀ path scope, condition.HasScope path scope → (scope.joins.map JoinScope.on).Nodup) ∧
      (∀ on, ∃ scopes : List (List String), scopes.Nodup ∧
        (∀ path, path ∈ scopes ↔ ∃ v ∈ f.visits c.dialect (.root f.table),
          v.place.path = path ∧ v.Opens c.dialect on) ∧
        (condition.flattenJoins.map JoinScope.on).count on = scopes.length) ∧
      ((condition.flattenJoins.map JoinScope.on).Nodup ↔
        ∀ v ∈ f.visits c.dialect (.root f.table), ∀ w ∈ f.visits c.dialect (.root f.table),
          ∀ on, v.Opens c.dialect on → w.Opens c.dialect on → v.place.path = w.place.path) ∧
      ∀ (s : Select) (d : Dialect), s.condition = condition →
        ∃ rest, (s.query d).sql = s.queryHead d ++
          Text.eachAfter " " (condition.flattenJoins.map JoinScope.on) ++ rest := by
  have hregistered := ((c.compile_eq_ok_iff f condition).mp hcompile).2
  have hkeyed : condition.Keyed := hregistered ▸ Condition.keyed_registerAll_empty _
  have hsiblings : ∀ path scope, condition.HasScope path scope →
      (scope.joins.map JoinScope.on).Nodup := by
    intro path scope hscope
    rw [hregistered] at hscope
    rw [hscope.eq_registerAll]
    exact ((Condition.keyed_iff _).mp (Condition.keyed_registerAll_empty _)).2.2.1
  have hcount : ∀ on, ∃ scopes : List (List String), scopes.Nodup ∧
      (∀ path, path ∈ scopes ↔ ∃ v ∈ f.visits c.dialect (.root f.table),
        v.place.path = path ∧ v.Opens c.dialect on) ∧
      (condition.flattenJoins.map JoinScope.on).count on = scopes.length := by
    intro on
    obtain ⟨scopes, hnodup, hmem, hlength⟩ := Condition.exists_scopes_of_count hkeyed on
    exact ⟨scopes, hnodup,
      fun path => (hmem path).trans (exists_hasScope_iff_opens hcompile path on), hlength⟩
  refine ⟨hsiblings, hcount, ?_, ?_⟩
  · rw [List.nodup_iff_count_le_one]
    constructor
    · intro honce v hv w hw on hopens hopens'
      obtain ⟨scopes, hnodup, hmem, hlength⟩ := hcount on
      exact (length_le_one_iff hnodup).mp (hlength ▸ honce on) _ ((hmem _).mpr ⟨v, hv, rfl, hopens⟩)
        _ ((hmem _).mpr ⟨w, hw, rfl, hopens'⟩)
    · intro hsame on
      obtain ⟨scopes, hnodup, hmem, hlength⟩ := hcount on
      rw [hlength, length_le_one_iff hnodup]
      intro path hpath path' hpath'
      obtain ⟨v, hv, rfl, hopens⟩ := (hmem _).mp hpath
      obtain ⟨w, hw, rfl, hopens'⟩ := (hmem _).mp hpath'
      exact hsame v hv w hw on hopens hopens'
  · rintro s d rfl
    exact s.exists_query_sql_eq d

/-- A manager with more fields about the manager. -/
def managerWith (fields : List Field) : Field :=
  ⟨"Manager", some "type:join;join:people;on:id,manager_id", false, .nested ⟨"people", fields⟩⟩

/-- People by the age of their manager and the name of the manager's manager. -/
def peopleByManagers : Filter :=
  ⟨"people", [managerWith [⟨"Age", some "type:gt", false, .scalar (.int 40)⟩],
    managerWith [managerWith [⟨"Name", some "type:eq", false, .scalar (.text "Ann")⟩]]]⟩

/-- The text of the join with the manager. -/
def managerJoin : String :=
  "LEFT JOIN \x60people\x60 ON \x60people\x60.\x60id\x60 = \x60people\x60.\x60manager_id\x60"

/-- What that filter asks for. -/
def peopleByManagersCondition : Condition :=
  ⟨[], [], [], [⟨managerJoin,
    ⟨[⟨"\x60people\x60.\x60age\x60 > ?", [.int 40]⟩], [], [], [⟨managerJoin,
      ⟨[⟨"\x60people\x60.\x60name\x60 = ?", [.text "Ann"]⟩], [], [], []⟩⟩]⟩⟩]⟩

theorem joins_once_in_each_scope_peopleByManagers :
    (⟨.mysql, defaultMaxDepth⟩ : Compiler).compile peopleByManagers =
        .ok peopleByManagersCondition ∧
      (peopleByManagersCondition.joins.map JoinScope.on).Nodup ∧
      ∃ scopes : List (List String), scopes.Nodup ∧ scopes.length = 2 ∧
        ∀ path, path ∈ scopes ↔ ∃ v ∈ peopleByManagers.visits .mysql (.root "people"),
          v.place.path = path ∧ v.Opens .mysql managerJoin := by
  have hcompile : (⟨.mysql, defaultMaxDepth⟩ : Compiler).compile peopleByManagers =
      .ok peopleByManagersCondition := by decide +kernel
  obtain ⟨hsiblings, hscopes, -, -⟩ := joins_once_in_each_scope hcompile
  obtain ⟨scopes, hnodup, hmem, hlength⟩ := hscopes managerJoin
  have htwo : (peopleByManagersCondition.flattenJoins.map JoinScope.on).count managerJoin = 2 := by
    decide +kernel
  exact ⟨hcompile, hsiblings [] _ (.root _), scopes, hnodup, hlength ▸ htwo, hmem⟩

/-- The manager of a manager is joined by the same text as the manager, and the statement has the
text twice. -/
theorem manager_joined_twice :
    (⟨.mysql, defaultMaxDepth⟩ : Compiler).compile peopleByManagers =
        .ok peopleByManagersCondition ∧
      ¬ (peopleByManagersCondition.flattenJoins.map JoinScope.on).Nodup ∧
      (Select.query ⟨"people", peopleByManagersCondition, none, 0⟩ .mysql).sql =
        "SELECT \x60people\x60.* FROM \x60people\x60 " ++ managerJoin ++ " " ++ managerJoin ++
          " WHERE \x60people\x60.\x60age\x60 > ? AND \x60people\x60.\x60name\x60 = ?" := by
  decide +kernel

end Compiler

end SqlFilter
