import SqlFilter.Proofs.CaseLoss
import SqlFilter.Proofs.Rendering

/-!
# The table of a scope

A scope has a table: the root has that of its filter, and the scope of a join has the joined one.
A filter can take its fields to other tables, by a table in a tag or by a table of its own where
another one is in force.  If it does neither, then everything in a scope is about the table of the
scope: predicates and sort terms are about its columns, and the joins below it are tied to it.

What a walk carries along is not the scope but the table in force, and it comes there through joins
and through filters without a tag.  `Linked` says of the joins on the way that each of them is tied
to the table that is in force before it.  That is all that is needed of the way, since the table
behind it is then that of the last join, which can be read off the text of the join.

A statement takes its joins in such an order that each of them is tied to a table that has been
introduced before it.

## Main results

* `Linked`, `tableBehind`, `Filter.stops_inPlace`: the table in force on a walk.
* `scopeTable`, `scopeTable_map_clause`: the table of a scope, read off the path to it.
* `Condition.mem_joins_of_flattenJoins_eq`: a join comes behind the one that it stands in.
* `Compiler.scopes_about_their_tables`.
-/

namespace SqlFilter

/-! ## The table behind joins -/

/-- The table in force behind joins, in a filter about the table `root`. -/
def tableBehind (root : String) : List Hop → String
  | [] => root
  | h :: rest => tableBehind h.join.table rest

/-- Each of the joins is tied to the table that is in force before it. -/
def Linked (root : String) : List Hop → Prop
  | [] => True
  | h :: rest => h.target.table = root ∧ Linked h.join.table rest

theorem tableBehind_append (root : String) (hops more : List Hop) :
    tableBehind root (hops ++ more) = tableBehind (tableBehind root hops) more := by
  induction hops generalizing root with
  | nil => rfl
  | cons h rest ih => exact ih h.join.table

theorem linked_append {root : String} {hops more : List Hop} :
    Linked root (hops ++ more) ↔ Linked root hops ∧ Linked (tableBehind root hops) more := by
  induction hops generalizing root with
  | nil => simp [Linked, tableBehind]
  | cons h rest ih => simp [Linked, tableBehind, ih, and_assoc]

/-- The route goes through linked joins, and the table in force is the one behind them. -/
structure Route.InPlace (root : String) (r : Route) : Prop where
  linked : Linked root r.hops
  table : r.table = tableBehind root r.hops

theorem Route.inPlace_root (root : String) : (Route.root root).InPlace root := ⟨trivial, rfl⟩

theorem Route.InPlace.inTable {root : String} {r : Route} (h : r.InPlace root) {table : String}
    (htable : table = "" ∨ table = r.table) : (r.inTable table).InPlace root := by
  have hsame : (if table = "" then r.table else table) = r.table := by
    rcases htable with rfl | rfl
    · rw [if_pos rfl]
    · exact ite_self _
  refine ⟨h.linked, ?_⟩
  show (if table = "" then r.table else table) = _
  rw [hsame]
  exact h.table

theorem Route.InPlace.joined {root : String} {r : Route} (h : r.InPlace root) {hop : Hop}
    (htarget : hop.target.table = r.table) : (r.joined hop).InPlace root := by
  refine ⟨linked_append.mpr ⟨h.linked, ?_, trivial⟩, ?_⟩
  · rw [htarget, h.table]
  · show hop.join.table = tableBehind root (r.hops ++ [hop])
    rw [tableBehind_append]
    rfl

/-! ## Filters that keep to the tables in force -/

/-- The table that a filter in a field is about by itself. -/
def FieldValue.table? : FieldValue → Option String
  | .nested inner => some inner.table
  | _ => none

/-- The field keeps to the tables in force: its tag says no table, and the filter in it has none
of its own or the one that is in force there, which for a join is the joined one. -/
structure Stop.KeepsTable (s : Stop) : Prop where
  tag : ∀ tag, s.field.HasTag tag → tag.table = none
  untagged : s.field.tag = none → ∀ table ∈ s.field.value.table?, table = "" ∨ table = s.route.table
  joined : ∀ tag, s.field.HasTag tag → ∀ join ∈ tag.join, ∀ table ∈ s.field.value.table?,
    table = "" ∨ table = join.table

/-- All that a walk comes to keeps to the tables in force. -/
def Filter.KeepsTables (f : Filter) : Prop := ∀ s ∈ f.stops (.root f.table), s.KeepsTable

instance (s : Stop) : Decidable s.KeepsTable :=
  decidable_of_iff ((∀ tag ∈ s.field.readTag, tag.table = none ∧ ∀ join ∈ tag.join,
      ∀ table ∈ s.field.value.table?, table = "" ∨ table = join.table) ∧
      (s.field.tag = none → ∀ table ∈ s.field.value.table?, table = "" ∨ table = s.route.table))
    ⟨fun h => ⟨fun tag htag => (h.1 tag (Field.readTag_eq_some_iff.mpr htag)).1, h.2,
        fun tag htag => (h.1 tag (Field.readTag_eq_some_iff.mpr htag)).2⟩,
      fun h => ⟨fun tag htag => ⟨h.tag tag (Field.readTag_eq_some_iff.mp htag),
        h.joined tag (Field.readTag_eq_some_iff.mp htag)⟩, h.untagged⟩⟩

instance (f : Filter) : Decidable f.KeepsTables :=
  inferInstanceAs (Decidable (∀ s ∈ f.stops (.root f.table), s.KeepsTable))

/-- A field that keeps to the tables in force is about the one where it stands. -/
theorem Stop.KeepsTable.target_table {s : Stop} (h : s.KeepsTable) {tag : Tag}
    (htag : s.field.HasTag tag) (table name : String) :
    (Compiler.target tag table name).table = table := by
  show tag.table.getD table = table
  rw [h.tag tag htag]
  rfl

section Stops

variable {root : String}

mutual
/-- **On a walk through what keeps to the tables in force, these are the tables behind the joins
on the way.** -/
theorem Filter.stops_inPlace : ∀ (f : Filter) (r : Route), r.InPlace root →
    (f.table = "" ∨ f.table = r.table) → (∀ s ∈ f.stops r, s.KeepsTable) →
      ∀ s ∈ f.stops r, s.route.InPlace root
  | ⟨table, fields⟩, r, hr, htable, hkeeps => by
      rw [Filter.stops] at hkeeps ⊢
      exact Field.stopsAll_inPlace fields (r.inTable table) (hr.inTable htable) hkeeps

theorem Field.stopsAll_inPlace : ∀ (fields : List Field) (r : Route), r.InPlace root →
    (∀ s ∈ Field.stopsAll r fields, s.KeepsTable) →
      ∀ s ∈ Field.stopsAll r fields, s.route.InPlace root
  | [], r, _, _ => by
      intro s hs
      rw [Field.stopsAll] at hs
      cases hs
  | field :: rest, r, hr, hkeeps => by
      rw [Field.stopsAll] at hkeeps ⊢
      intro s hs
      rcases List.mem_append.mp hs with hs | hs
      · exact Field.stops_inPlace field r hr
          (fun t ht => hkeeps t (List.mem_append_left _ ht)) s hs
      · exact Field.stopsAll_inPlace rest r hr
          (fun t ht => hkeeps t (List.mem_append_right _ ht)) s hs

theorem Field.stops_inPlace : ∀ (field : Field) (r : Route), r.InPlace root →
    (∀ s ∈ field.stops r, s.KeepsTable) → ∀ s ∈ field.stops r, s.route.InPlace root
  | ⟨name, none, isZero, value⟩, r, hr, hkeeps => by
      rw [Field.stops] at hkeeps ⊢
      have hfirst := hkeeps _ List.mem_cons_self
      intro s hs
      rcases List.mem_cons.mp hs with rfl | hs
      · exact hr
      · exact FieldValue.stops_inPlace value r.inside ⟨hr.linked, hr.table⟩ (hfirst.untagged rfl)
          (fun t ht => hkeeps t (List.mem_cons_of_mem _ ht)) s hs
  | ⟨name, some text, isZero, value⟩, r, hr, hkeeps => by
      unfold Field.stops at hkeeps ⊢
      have hfirst := hkeeps _ List.mem_cons_self
      intro s hs
      rcases List.mem_cons.mp hs with rfl | hs
      · exact hr
      · have hinside := fun t ht => hkeeps t (List.mem_cons_of_mem _ ht)
        split at hs
        · rename_i tag hparse
          have htag : Field.HasTag ⟨name, some text, isZero, value⟩ tag := ⟨text, rfl, hparse⟩
          simp only [hparse] at hinside
          split at hs
          · cases hs
          · rename_i hzero
            rw [if_neg hzero] at hinside
            split at hs
            · rename_i join hjoin
              simp only [hjoin] at hinside
              have hjoined : (r.joined ⟨join, Compiler.target tag r.table name⟩).InPlace root :=
                hr.joined (hfirst.target_table htag r.table name)
              exact FieldValue.stops_inPlace value _ hjoined (hfirst.joined tag htag join hjoin)
                hinside s hs
            · cases hs
        · cases hs

theorem FieldValue.stops_inPlace : ∀ (value : FieldValue) (r : Route), r.InPlace root →
    (∀ table ∈ value.table?, table = "" ∨ table = r.table) →
      (∀ s ∈ value.stops r, s.KeepsTable) → ∀ s ∈ value.stops r, s.route.InPlace root
  | .nested inner, r, hr, htable, hkeeps =>
      Filter.stops_inPlace inner r hr (htable inner.table rfl) hkeeps
  | .null, _, _, _, _ => by
      intro s hs
      cases hs
  | .scalar _, _, _, _, _ => by
      intro s hs
      cases hs
  | .list _, _, _, _, _ => by
      intro s hs
      cases hs
end

end Stops

/-! ## What is registered is about the table of its scope -/

/-- The content is about the table, if it is about any. -/
def Content.IsAbout (table : String) : Content → Prop
  | .test _ ⟨.about target _, _⟩ => target.table = table
  | .test _ ⟨.never, _⟩ => True
  | .sort target _ => target.table = table
  | .scope => True

/-- The joins of the intent are linked, and its content is about the table behind them. -/
structure Intent.InPlace (root : String) (e : Intent) : Prop where
  linked : Linked root e.path
  content : e.content.IsAbout (tableBehind root e.path)

theorem isAbout_of_asked? {target : Target} {op : Operator} {value : FieldValue} {asked : Asked}
    (h : asked? target op value = some asked) (group : Group) :
    (Content.test group asked).IsAbout target.table := by
  unfold asked? at h
  split at h <;> cases h <;> first | exact rfl | trivial

/-- What a field is to register is about the table that the field is about. -/
theorem inPlace_of_intent? {tag : Tag} {target : Target} {value : FieldValue} {e : Intent}
    (h : intent? tag target value = some e) : e.InPlace target.table := by
  unfold intent? at h
  split at h
  · split at h
    · obtain ⟨content, hsort, rfl⟩ := Option.map_eq_some_iff.mp h
      obtain ⟨column, direction, rfl, -⟩ := exists_of_sort?_eq_some hsort
      exact ⟨trivial, rfl⟩
    · cases h
  · split at h
    · cases h
      exact ⟨⟨rfl, trivial⟩, trivial⟩
    · cases h
  · obtain ⟨asked, hasked, rfl⟩ := Option.map_eq_some_iff.mp h
    exact ⟨trivial, isAbout_of_asked? hasked _⟩

/-- **What a filter is to register that keeps to the tables in force is about the table behind the
joins on the way.** -/
theorem Filter.KeepsTables.inPlace {f : Filter} (h : f.KeepsTables) {e : Intent}
    (he : e ∈ f.intents) : e.InPlace f.table := by
  obtain ⟨s, hs, hintent⟩ := List.mem_filterMap.mp he
  obtain ⟨tag, inner, htag, -, hinner, rfl⟩ := Stop.exists_of_intent?_eq_some hintent
  have hroute := Filter.stops_inPlace f _ (Route.inPlace_root f.table) (.inr rfl) h s hs
  have hcontent := inPlace_of_intent? hinner
  rw [(h s hs).target_table htag, hroute.table] at hcontent
  refine ⟨linked_append.mpr ⟨hroute.linked, hcontent.linked⟩, ?_⟩
  rw [tableBehind_append]
  exact hcontent.content

/-! ## The table of a scope, read off its path -/

/-- The table that a join clause names behind `LEFT JOIN`. -/
def joinedTable (on : String) : String :=
  unticked (String.ofList ((on.toList.drop "LEFT JOIN ".length).takeWhile (· ≠ ' ')))

/-- The table of the scope at the end of a path, in a condition about the table `root`. -/
def scopeTable (root : String) (path : List String) : String :=
  match path.getLast? with
  | none => root
  | some on => joinedTable on

theorem joinedTable_clause (d : Dialect) {h : Hop} (hplain : h.Plain) :
    joinedTable (h.clause d) = h.join.table := by
  have hblank : ∀ c ∈ (d.quote h.join.table).toList, decide (c ≠ ' ') = true := by
    intro c hc
    rw [decide_eq_true_eq]
    rintro rfl
    cases d with
    | mysql => simp [Dialect.quote, hplain.1.table.blank] at hc
    | postgres => exact hplain.1.table.blank hc
  have hclause : (h.clause d).toList = "LEFT JOIN ".toList ++ ((d.quote h.join.table).toList ++
      ' ' :: ("ON " ++ d.qualify h.join.table h.join.joined ++ " = " ++
        d.qualify h.target.table h.join.owning).toList) := by
    simp [Hop.clause, Dialect.joinClause]
  have hdrop : (h.clause d).toList.drop "LEFT JOIN ".length = (d.quote h.join.table).toList ++
      ' ' :: ("ON " ++ d.qualify h.join.table h.join.joined ++ " = " ++
        d.qualify h.target.table h.join.owning).toList := by
    rw [hclause]
    exact List.drop_left
  rw [joinedTable, hdrop, List.takeWhile_append_of_pos hblank, List.takeWhile_cons_of_neg (by simp),
    List.append_nil, String.ofList_toList, unticked_quote d hplain.1.table]

/-- The table of a scope is the one behind the joins that lead to it. -/
theorem scopeTable_map_clause (d : Dialect) (root : String) {hops : List Hop}
    (hplain : ∀ hop ∈ hops, hop.Plain) :
    scopeTable root (hops.map (Hop.clause d)) = tableBehind root hops := by
  induction hops using List.reverseRecOn with
  | nil => rfl
  | append_singleton hops hop _ =>
      have hlast : hop ∈ hops ++ [hop] := List.mem_append_right _ List.mem_cons_self
      have hpath : ((hops ++ [hop]).map (Hop.clause d)).getLast? = some (hop.clause d) := by
        rw [List.map_append, List.map_singleton, List.getLast?_concat]
      rw [tableBehind_append, scopeTable, hpath]
      exact joinedTable_clause d (hplain hop hlast)

/-! ## Texts about a table -/

/-- The text starts with a column of the table. -/
def StartsWithColumn (d : Dialect) (table text : String) : Prop :=
  ∃ rest, text = d.quote table ++ "." ++ rest

/-- The join reads `LEFT JOIN q(J) ON q(J).q(l) = q(T).q(f)`, where `J` is the joined table and
`T` the one that it is tied to. -/
def JoinScope.TiedTo (d : Dialect) (table : String) (s : JoinScope) : Prop :=
  ∃ joined owning, s.on = "LEFT JOIN " ++ d.quote (joinedTable s.on) ++ " ON " ++
    d.qualify (joinedTable s.on) joined ++ " = " ++ d.qualify table owning

/-- Everything in the scope is about the table. -/
structure Condition.IsAbout (d : Dialect) (table : String) (scope : Condition) : Prop where
  predicates : ∀ p ∈ scope.wheres ++ scope.ors,
    p.fragment = "1 = 0" ∨ StartsWithColumn d table p.fragment
  orders : ∀ term ∈ scope.orders, StartsWithColumn d table term
  joins : ∀ s ∈ scope.joins, s.TiedTo d table

theorem startsWithColumn_append (d : Dialect) (target : Target) (text : String) :
    StartsWithColumn d target.table (d.column target ++ text) :=
  ⟨d.quote target.column ++ text, by
    simp only [Dialect.column, Dialect.qualify, String.append_assoc]⟩

/-- A demand about a table is written as a column of it. -/
theorem Content.IsAbout.fragment {table : String} {group : Group} {asked : Asked}
    (h : (Content.test group asked).IsAbout table) (d : Dialect) :
    (asked.write d).fragment = "1 = 0" ∨ StartsWithColumn d table (asked.write d).fragment := by
  rcases asked with ⟨_ | ⟨target, test⟩, params⟩
  · exact .inl rfl
  · right
    have htable : target.table = table := h
    rw [← htable]
    show StartsWithColumn d target.table (d.column target ++ " " ++ test.text d)
    rw [String.append_assoc]
    exact startsWithColumn_append d target _

theorem Hop.tiedTo_of_on_eq {d : Dialect} {h : Hop} (hplain : h.Plain) {s : JoinScope}
    (hs : s.on = h.clause d) : s.TiedTo d h.target.table := by
  refine ⟨h.join.joined, h.join.owning, ?_⟩
  rw [hs, joinedTable_clause d hplain]
  rfl

/-! ## The order of joins -/

namespace Condition

/-- An element of two lists in a row stands in the first one or in the second. -/
private theorem eq_or_eq_of_append_eq {first second before after : List JoinScope} {s : JoinScope}
    (h : first ++ second = before ++ s :: after) :
    (∃ rest, first = before ++ s :: rest) ∨
      ∃ rest, before = first ++ rest ∧ second = rest ++ s :: after := by
  rcases List.append_eq_append_iff.mp h with ⟨rest, hbefore, hsecond⟩ | ⟨rest, hfirst, hafter⟩
  · exact .inr ⟨rest, hbefore, hsecond⟩
  · cases rest with
    | nil => exact .inr ⟨[], by rw [hfirst, List.append_nil, List.append_nil], hafter.symm⟩
    | cons t rest =>
        rw [List.cons_append, List.cons.injEq] at hafter
        exact .inl ⟨rest, by rw [hfirst, hafter.1]⟩

mutual
/-- **A join comes behind the one that it stands in**, in the order in which a statement takes
them. -/
theorem mem_joins_of_flattenJoins_eq {before after : List JoinScope} {s : JoinScope} :
    ∀ c : Condition, c.flattenJoins = before ++ s :: after →
      s ∈ c.joins ∨ ∃ e ∈ before, s ∈ e.condition.joins
  | ⟨_, _, _, joins⟩, h => mem_joins_of_flattenScopes_eq joins h

theorem mem_joins_of_flattenScopes_eq {before after : List JoinScope} {s : JoinScope} :
    ∀ joins : List JoinScope, flattenScopes joins = before ++ s :: after →
      s ∈ joins ∨ ∃ e ∈ before, s ∈ e.condition.joins
  | [], h => by simp [flattenScopes] at h
  | j :: rest, h => by
      rw [flattenScopes] at h
      cases before with
      | nil =>
          rw [List.nil_append, List.cons.injEq] at h
          exact .inl (h.1 ▸ List.mem_cons_self)
      | cons first before =>
          rw [List.cons_append, List.cons.injEq] at h
          obtain ⟨rfl, hsplit⟩ := h
          rcases eq_or_eq_of_append_eq hsplit with ⟨inside, hinside⟩ | ⟨behind, rfl, hbehind⟩
          · rcases mem_joins_of_flattenScope_eq j hinside with hs | ⟨e, he, hs⟩
            · exact .inr ⟨j, List.mem_cons_self, hs⟩
            · exact .inr ⟨e, List.mem_cons_of_mem _ he, hs⟩
          · rcases mem_joins_of_flattenScopes_eq rest hbehind with hs | ⟨e, he, hs⟩
            · exact .inl (List.mem_cons_of_mem _ hs)
            · exact .inr ⟨e, List.mem_cons_of_mem _ (List.mem_append_right _ he), hs⟩

theorem mem_joins_of_flattenScope_eq {before after : List JoinScope} {s : JoinScope} :
    ∀ j : JoinScope, flattenScope j = before ++ s :: after →
      s ∈ j.condition.joins ∨ ∃ e ∈ before, s ∈ e.condition.joins
  | ⟨_, condition⟩, h => mem_joins_of_flattenJoins_eq condition h
end

end Condition

/-! ## The whole compiler -/

section Intents

variable {d : Dialect} {root : String} {es : List Intent} (hplain : ∀ e ∈ es, e.Plain)
  (hplace : ∀ e ∈ es, e.InPlace root) {path : List String} {scope : Condition}
  (hscope : (Condition.empty.registerAll (es.map (Intent.write d))).HasScope path scope)
include hplain hplace hscope

/-- A clause of a scope is a content that is about the table of the scope. -/
theorem exists_content_of_clause {clause : Clause} (hclause : clause ∈ scope.clauses) :
    ∃ content : Content, content.write d = clause ∧ content.IsAbout (scopeTable root path) := by
  obtain ⟨e, he, hwrite⟩ := List.mem_map.mp (Condition.mem_of_mem_clauses hscope hclause)
  cases hwrite
  refine ⟨e.content, rfl, ?_⟩
  rw [scopeTable_map_clause d root (hplain e he).path]
  exact (hplace e he).content

/-- A join below a scope is tied to the table of the scope. -/
theorem tiedTo_of_mem_joins {s : JoinScope} (hs : s ∈ scope.joins) :
    s.TiedTo d (scopeTable root path) := by
  obtain ⟨hops, hpath, hlead⟩ :=
    (exists_hasScope_write_iff d es (path ++ [s.on])).mp ⟨_, hscope.snoc hs⟩
  -- Some intent passes through the join, and its hops say what the join is tied to.
  obtain ⟨lead, last, rfl, rfl, hlast⟩ := List.map_eq_append_iff.mp hpath.symm
  obtain ⟨hop, rfl, hon⟩ := List.map_eq_singleton_iff.mp hlast
  rcases hlead with hnil | ⟨e, he, hway⟩
  · exact absurd hnil (List.append_ne_nil_of_right_ne_nil _ (List.cons_ne_nil _ _))
  · have hops : ∀ h ∈ lead ++ [hop], h.Plain := fun h hmem =>
      (hplain e he).path h (hway.subset hmem)
    obtain ⟨rest, hrest⟩ := hway
    have hlinked := (hplace e he).linked
    rw [← hrest, linked_append, linked_append] at hlinked
    have htied := Hop.tiedTo_of_on_eq (hops hop (List.mem_append_right _ List.mem_cons_self))
      hon.symm
    rw [hlinked.1.2.1] at htied
    rw [scopeTable_map_clause d root fun h hmem => hops h (List.mem_append_left _ hmem)]
    exact htied

/-- Everything in a scope is about the table of the scope. -/
theorem isAbout_scopeTable : scope.IsAbout d (scopeTable root path) := by
  have hpredicate : ∀ group, ∀ p ∈ scope.predicates group,
      p.fragment = "1 = 0" ∨ StartsWithColumn d (scopeTable root path) p.fragment := by
    intro group p hp
    obtain ⟨content, hwrite, habout⟩ := exists_content_of_clause hplain hplace hscope
      (Condition.predicate_mem_clauses.mpr hp)
    cases content with
    | test g asked =>
        cases hwrite
        exact habout.fragment d
    | sort target direction => cases hwrite
    | scope => cases hwrite
  refine ⟨?_, ?_, fun s hs => tiedTo_of_mem_joins hplain hplace hscope hs⟩
  · intro p hp
    rcases List.mem_append.mp hp with hp | hp
    · exact hpredicate .and p hp
    · exact hpredicate .or p hp
  · intro term hterm
    obtain ⟨content, hwrite, habout⟩ := exists_content_of_clause hplain hplace hscope
      (Condition.mem_clauses.mpr (.inr (.inr ⟨term, hterm, rfl⟩)))
    cases content with
    | test g asked => cases hwrite
    | sort target direction =>
        cases hwrite
        have htable : target.table = scopeTable root path := habout
        rw [← htable, String.append_assoc]
        exact startsWithColumn_append d target _
    | scope => cases hwrite

end Intents

/-- If everything in every scope is about the table of the scope, then a statement ties each of
its joins to the root or to the table of a join before it. -/
theorem Condition.tiedTo_introduced {d : Dialect} {root : String} {c : Condition}
    (h : ∀ path scope, c.HasScope path scope → scope.IsAbout d (scopeTable root path))
    {before after : List JoinScope} {s : JoinScope} (hs : c.flattenJoins = before ++ s :: after) :
    ∃ table, s.TiedTo d table ∧ (table = root ∨ ∃ e ∈ before, table = joinedTable e.on) := by
  rcases mem_joins_of_flattenJoins_eq c hs with hroot | ⟨e, he, hinside⟩
  · exact ⟨root, (h [] c (.root c)).joins s hroot, .inl rfl⟩
  · have hmem : e ∈ c.flattenJoins := by
      rw [hs]
      exact List.mem_append_left _ he
    obtain ⟨path, hpath⟩ := exists_hasScope_of_mem_flattenJoins e c hmem
    have htable : scopeTable root (path ++ [e.on]) = joinedTable e.on := by
      rw [scopeTable, List.getLast?_concat]
    exact ⟨_, (h _ _ hpath).joins s hinside, .inr ⟨e, he, htable⟩⟩

namespace Compiler

/-- **Everything in a scope is about the table of the scope**, and joins only refer to tables
that have been introduced.  For a filter that keeps to the tables in force, the table of the root
is that of the filter, and the table of any other scope is the one that its join names first:
predicates, sort terms and the joins right below it are about that table.  So in the order in
which a statement takes them, each join ties its own table to the root or to the table of a join
before it. -/
theorem scopes_about_their_tables {c : Compiler} {f : Filter} {condition : Condition}
    (hcompile : c.compile f = .ok condition) (hnamed : f.Named AsciiName)
    (htables : f.KeepsTables) :
    (∀ path scope, condition.HasScope path scope →
        scope.IsAbout c.dialect (scopeTable f.table path)) ∧
      (∀ before s after, condition.flattenJoins = before ++ s :: after →
        ∃ table, s.TiedTo c.dialect table ∧
          (table = f.table ∨ ∃ e ∈ before, table = joinedTable e.on)) ∧
      ∀ (s : Select) (d : Dialect), s.condition = condition →
        ∃ rest, (s.query d).sql = s.queryHead d ++
          Text.eachAfter " " (condition.flattenJoins.map JoinScope.on) ++ rest := by
  have hbare : f.Named Bare := Filter.Named.mono (fun _ => AsciiName.bare) f hnamed
  have habout : ∀ path scope, condition.HasScope path scope →
      scope.IsAbout c.dialect (scopeTable f.table path) := by
    intro path scope hscope
    rw [eq_registerAll_intents hcompile] at hscope
    exact isAbout_scopeTable (fun e he => hbare.plain_of_mem_intents he)
      (fun e he => htables.inPlace he) hscope
  refine ⟨habout, fun before s after hs => Condition.tiedTo_introduced habout hs, ?_⟩
  rintro s d rfl
  exact s.exists_query_sql_eq d

/-- Users by what they ordered. The page stands in the users, the goods in their orders, and the
orders are come back to for their date. -/
def usersByGoods : Filter :=
  ⟨"users", [⟨"Page", none, false, .nested ⟨"", [sortField "order[createdAt]=desc"]⟩⟩,
    ⟨"Orders", some "type:join;join:orders;on:user_id,id", false, .nested ⟨"orders",
      [⟨"State", none, false, .nested ⟨"orders",
          [⟨"Goods", some "type:join;join:goods;on:order_id,id", false, .nested ⟨"",
            [⟨"Name", some "type:in;group:or", false, .list [.text "tea", .text "jam"]⟩]⟩⟩]⟩⟩]⟩⟩,
    ⟨"MoreOrders", some "type:join;join:orders;on:user_id,id", false, .nested ⟨"",
      [⟨"PaidAt", some "type:isnotnull", false, .scalar (.bool true)⟩]⟩⟩]⟩

/-- The goods that it asks for. -/
def orderedGoods : JoinScope :=
  ⟨"LEFT JOIN \x60goods\x60 ON \x60goods\x60.\x60order_id\x60 = \x60orders\x60.\x60id\x60",
    ⟨[], [⟨"\x60goods\x60.\x60name\x60 in (?, ?)", [.text "tea", .text "jam"]⟩], [], []⟩⟩

/-- The orders that it asks for, with the goods joined to them. -/
def ordersOfGoods : JoinScope :=
  ⟨"LEFT JOIN \x60orders\x60 ON \x60orders\x60.\x60user_id\x60 = \x60users\x60.\x60id\x60",
    ⟨[⟨"\x60orders\x60.\x60paid_at\x60 is not null", []⟩], [], [], [orderedGoods]⟩⟩

/-- What that filter asks for. -/
def usersByGoodsCondition : Condition :=
  ⟨[], [], ["\x60users\x60.\x60created_at\x60 desc"], [ordersOfGoods]⟩

theorem scopes_about_their_tables_usersByGoods :
    (⟨.mysql, defaultMaxDepth⟩ : Compiler).compile usersByGoods = .ok usersByGoodsCondition ∧
      usersByGoods.Named AsciiName ∧ usersByGoods.KeepsTables ∧
      ordersOfGoods.condition.IsAbout .mysql "orders" ∧
        ∃ table, orderedGoods.TiedTo .mysql table ∧
          (table = "users" ∨ ∃ e ∈ [ordersOfGoods], table = joinedTable e.on) := by
  have hcompile : (⟨.mysql, defaultMaxDepth⟩ : Compiler).compile usersByGoods =
      .ok usersByGoodsCondition := by decide +kernel
  have hnamed : usersByGoods.Named AsciiName := by decide +kernel
  have htables : usersByGoods.KeepsTables := by decide +kernel
  obtain ⟨habout, hjoins, -⟩ := scopes_about_their_tables hcompile hnamed htables
  have hopen : ordersOfGoods ∈ usersByGoodsCondition.joins := List.mem_cons_self
  have horders := habout [ordersOfGoods.on] ordersOfGoods.condition (.join hopen (.root _))
  have hname : scopeTable usersByGoods.table [ordersOfGoods.on] = "orders" := by decide +kernel
  rw [hname] at horders
  exact ⟨hcompile, hnamed, htables, horders, hjoins [ordersOfGoods] orderedGoods [] rfl⟩

end Compiler

end SqlFilter
