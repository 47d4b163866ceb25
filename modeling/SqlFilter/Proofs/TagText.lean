import SqlFilter.Proofs.Segments

/-!
# The text of a tag

What a tag says can be written down again: one segment for each thing it says, in a fixed order.
Not everything that has the form of a tag can be said in a text.  A name in it is neither empty nor
has blanks around it, since values are trimmed and empty ones are passed over, and it has no
semicolon, since that ends a segment; the columns of a join have no comma either; and there is a
join exactly if the operator says so.  These tags are the ones that come out of a text, and each of
them comes out of its own.

That nothing else comes out is an invariant of the draft, kept by every segment, whatever other
segments the text has before or after it.  In the other direction the work is done once for all
keys: segments whose keys and values have no separator are read back as they were written.

## Main results

* `Tag.text`: a tag written down.  `Tag.WellFormed`: a tag that can be.
* `Tag.Draft.Clean`, `Tag.Draft.Clean.addAll`: what every text leads to.
* `Tag.segments_joinWith`, `Tag.WellFormed.segments_text`: the segments of a written text.
* `Tag.text_round_trip`: the tags that texts are read as, and that writing one down keeps it.
-/

namespace SqlFilter

/-! ## Writing tags -/

/-- The columns of a join as an `on` segment has them. -/
def JoinTarget.columns (join : JoinTarget) : String :=
  Text.joinWith "," [join.joined, join.owning]

namespace Tag

/-- The keys and values that say what a tag says. -/
def pairs (tag : Tag) : List (String × String) :=
  ("type", tag.operator.name) ::
    (tag.column.toList.map (("column", ·)) ++ tag.table.toList.map (("table", ·)) ++
      tag.join.toList.flatMap (fun join => [("join", join.table), ("on", join.columns)]) ++
      [("group", tag.group.name)])

/-- A key and a value as a segment. -/
def segment (pair : String × String) : String := pair.1 ++ ":" ++ pair.2

/-- A tag written down. -/
def text (tag : Tag) : String := Text.joinWith ";" (tag.pairs.map segment)

/-! ## Tags that can be written -/

/-- A name that a segment can have as its key or value. -/
structure IsName (name : String) : Prop where
  ne_empty : name ≠ ""
  trimmed : Text.trim name = name
  noSemicolon : ';' ∉ name.toList

instance (name : String) : Decidable (IsName name) :=
  decidable_of_iff (name ≠ "" ∧ Text.trim name = name ∧ ';' ∉ name.toList)
    ⟨fun ⟨hne, htrim, hsemicolon⟩ => ⟨hne, htrim, hsemicolon⟩,
      fun h => ⟨h.ne_empty, h.trimmed, h.noSemicolon⟩⟩

end Tag

/-- A join that segments can say. -/
structure JoinTarget.WellFormed (join : JoinTarget) : Prop where
  table : Tag.IsName join.table
  joined : Tag.IsName join.joined
  owning : Tag.IsName join.owning
  joined_noComma : ',' ∉ join.joined.toList
  owning_noComma : ',' ∉ join.owning.toList

/-- A tag that segments can say. -/
structure Tag.WellFormed (tag : Tag) : Prop where
  join_iff : tag.operator = .join ↔ ∃ join, tag.join = some join
  column : ∀ column ∈ tag.column, Tag.IsName column
  table : ∀ table ∈ tag.table, Tag.IsName table
  join : ∀ join ∈ tag.join, join.WellFormed

namespace Tag

/-! ## What a text leads to -/

/-- Each column of an `on` segment is a trimmed piece of its value. -/
theorem of_mem_columnList {column value : String} (h : column ∈ columnList value) :
    Text.trim column = column ∧ ',' ∉ column.toList ∧
      ∀ c ∈ column.toList, c ∈ value.toList := by
  obtain ⟨part, hpart, rfl⟩ := List.mem_map.mp h
  rw [Text.trim_eq_self_iff, String.toList_ofList]
  refine ⟨Text.trimChars_trimChars part, fun hcomma => ?_, fun c hc => ?_⟩
  · exact Text.notMem_of_mem_splitChars hpart (Text.mem_of_mem_trimChars hcomma)
  · exact Text.mem_of_mem_splitChars hpart (Text.mem_of_mem_trimChars hc)

namespace Draft

/-- What a segment with a value can make of a draft, whatever its key. -/
inductive Takes (draft : Draft) (value : String) : Draft → Prop
  | nothing : Takes draft value draft
  | operator (op : Operator) : Takes draft value { draft with operator := op }
  | column (hne : value ≠ "") : Takes draft value { draft with column := some value }
  | table (hne : value ≠ "") : Takes draft value { draft with table := some value }
  | joinTable (hne : value ≠ "") : Takes draft value { draft with joinTable := some value }
  | joinColumns : Takes draft value { draft with joinColumns := columnList value }
  | group (group : Group) : Takes draft value { draft with group := group }

theorem takes_of_add {draft next : Draft} {key value : String}
    (h : draft.add key value = .ok next) : draft.Takes value next := by
  unfold Draft.add at h
  split_ifs at h with htype hcolumn hempty htable hempty hjoin hempty hon hgroup hand hor
  · split at h
    · cases h
      exact .operator _
    · cases h
  all_goals cases h
  · exact .nothing
  · exact .column hempty
  · exact .nothing
  · exact .table hempty
  · exact .nothing
  · exact .joinTable hempty
  · exact .joinColumns
  · exact .group .and
  · exact .group .or
  · exact .nothing

/-- What holds of the names in a draft, however many segments it has taken in.  A column of a join
may still be empty, which only `Draft.finish` looks at. -/
structure Clean (draft : Draft) : Prop where
  column : ∀ column ∈ draft.column, IsName column
  table : ∀ table ∈ draft.table, IsName table
  joinTable : ∀ table ∈ draft.joinTable, IsName table
  joinColumns : ∀ column ∈ draft.joinColumns,
    Text.trim column = column ∧ ';' ∉ column.toList ∧ ',' ∉ column.toList

theorem clean_empty : Clean empty where
  column := by rintro _ ⟨⟩
  table := by rintro _ ⟨⟩
  joinTable := by rintro _ ⟨⟩
  joinColumns := by rintro _ ⟨⟩

/-- **A segment keeps a draft clean**, whatever its key. -/
theorem Clean.add {draft next : Draft} {key value : String} (h : draft.Clean)
    (htrim : Text.trim value = value) (hsemicolon : ';' ∉ value.toList)
    (hadd : draft.add key value = .ok next) : next.Clean := by
  have hname : value ≠ "" → ∀ name ∈ some value, IsName name := by
    rintro hne _ ⟨⟩
    exact ⟨hne, htrim, hsemicolon⟩
  cases takes_of_add hadd with
  | nothing => exact h
  | operator op => exact { h with }
  | column hne => exact { h with column := hname hne }
  | table hne => exact { h with table := hname hne }
  | joinTable hne => exact { h with joinTable := hname hne }
  | joinColumns =>
      refine { h with joinColumns := fun column hcolumn => ?_ }
      obtain ⟨htrimmed, hcomma, hvalue⟩ := of_mem_columnList hcolumn
      exact ⟨htrimmed, fun hmem => hsemicolon (hvalue _ hmem), hcomma⟩
  | group group => exact { h with }

/-- **A run keeps a draft clean**, if its values are trimmed and have no semicolon. -/
theorem Clean.addAll {draft next : Draft} {parts : List (String × String)} (h : draft.Clean)
    (htrim : ∀ part ∈ parts, Text.trim part.2 = part.2)
    (hsemicolon : ∀ part ∈ parts, ';' ∉ part.2.toList)
    (hadd : draft.addAll parts = .ok next) : next.Clean := by
  induction parts generalizing draft with
  | nil =>
      cases hadd
      exact h
  | cons part rest ih =>
      obtain ⟨key, value⟩ := part
      rw [List.forall_mem_cons] at htrim hsemicolon
      rw [Draft.addAll] at hadd
      split at hadd
      · rename_i hstep
        exact ih (h.add htrim.1 hsemicolon.1 hstep) htrim.2 hsemicolon.2 hadd
      · cases hadd

theorem Clean.joinTarget {draft : Draft} {join : JoinTarget} (h : draft.Clean)
    (hjoin : draft.joinTarget = .ok join) : join.WellFormed := by
  unfold Draft.joinTarget at hjoin
  split at hjoin
  · cases hjoin
  · rename_i table htable
    split at hjoin
    · rename_i joined owning hcolumns
      split at hjoin
      · rename_i hne
        cases hjoin
        obtain ⟨hjoined, hjoinedSemi, hjoinedComma⟩ := h.joinColumns joined (by simp [hcolumns])
        obtain ⟨howning, howningSemi, howningComma⟩ := h.joinColumns owning (by simp [hcolumns])
        exact ⟨h.joinTable table htable, ⟨hne.1, hjoined, hjoinedSemi⟩,
          ⟨hne.2, howning, howningSemi⟩, hjoinedComma, howningComma⟩
      · cases hjoin
    · cases hjoin

theorem Clean.finish {draft : Draft} {tag : Tag} (h : draft.Clean)
    (hfinish : draft.finish = .ok tag) : tag.WellFormed := by
  unfold Draft.finish at hfinish
  split at hfinish
  · rename_i hop
    split at hfinish
    · rename_i join hjoin
      cases hfinish
      refine ⟨by simp [hop], h.column, h.table, ?_⟩
      rintro _ ⟨⟩
      exact h.joinTarget hjoin
    · cases hfinish
  · rename_i hop
    cases hfinish
    refine ⟨by simp [hop], h.column, h.table, ?_⟩
    rintro _ ⟨⟩

end Draft

/-- **A text is read as a tag that can be written.** -/
theorem wellFormed_of_parse {text : String} {tag : Tag} (h : parse text = .ok (some tag)) :
    tag.WellFormed := by
  obtain ⟨draft, hdraft, hfinish⟩ := exists_draft_of_parse h
  have hclean : draft.Clean :=
    Draft.clean_empty.addAll (fun _ => trimmed_of_mem_segments) (fun _ => notMem_of_mem_segments)
      hdraft
  exact hclean.finish hfinish

/-! ## Reading segments that were written -/

/-- A key and a value that are read back off the segment they make. -/
structure Readable (pair : String × String) : Prop where
  key : IsName pair.1
  key_noColon : ':' ∉ pair.1.toList
  value : IsName pair.2

namespace Readable

theorem of_isName {key value : String} (hkey : IsName key ∧ ':' ∉ key.toList)
    (hvalue : IsName value) : Readable (key, value) := ⟨hkey.1, hkey.2, hvalue⟩

variable {pair : String × String}

theorem noSemicolon (h : Readable pair) : ';' ∉ (segment pair).toList := by
  simp [segment, h.key.noSemicolon, h.value.noSemicolon]

theorem segment?_segment (h : Readable pair) : segment? (segment pair).toList = some pair := by
  obtain ⟨key, value⟩ := pair
  have hcut : Text.cutChars ':' (segment (key, value)).toList =
      some (key.toList, value.toList) := by
    refine Text.cutChars_eq_some_iff.mpr ⟨?_, h.key_noColon⟩
    simp [segment]
  have hkey : Text.trimChars key.toList = key.toList := Text.trim_eq_self_iff.mp h.key.trimmed
  have hvalue : Text.trimChars value.toList = value.toList :=
    Text.trim_eq_self_iff.mp h.value.trimmed
  simp only [segment?, hcut, Option.map_some, hkey, hvalue, String.ofList_toList]

end Readable

/-- **Segments are read back as they were written.** -/
theorem segments_joinWith {pairs : List (String × String)} (hne : pairs ≠ [])
    (h : ∀ pair ∈ pairs, Readable pair) :
    segments (Text.joinWith ";" (pairs.map segment)).toList = pairs := by
  have hparts : Text.splitChars ';' (Text.joinWith ";" (pairs.map segment)).toList =
      (pairs.map segment).map String.toList := by
    refine Text.splitChars_joinWith rfl (by simpa using hne) fun part hpart => ?_
    obtain ⟨pair, hpair, rfl⟩ := List.mem_map.mp hpart
    exact (h pair hpair).noSemicolon
  calc segments (Text.joinWith ";" (pairs.map segment)).toList
      = pairs.filterMap fun pair => segment? (segment pair).toList := by
        rw [segments, hparts, List.map_map, List.filterMap_map]
        rfl
    _ = pairs.filterMap some :=
        List.filterMap_congr fun pair hpair => (h pair hpair).segment?_segment
    _ = pairs := List.filterMap_some

/-! ## What a written tag reads as -/

theorem isName_name (op : Operator) : IsName op.name := by
  have hall : ∀ op ∈ Operator.all, IsName op.name := by decide
  exact hall op op.mem_all

theorem isName_groupName (group : Group) : IsName group.name := by
  cases group <;> decide

/-- Names with a comma between them make a name, since no blank of theirs is at its ends. -/
theorem isName_columns {join : JoinTarget} (h : join.WellFormed) : IsName join.columns := by
  have hlist : join.columns.toList = join.joined.toList ++ ',' :: join.owning.toList := by
    simp [JoinTarget.columns, Text.joinWith]
  have hjoined := Text.trimChars_eq_self_iff.mp (Text.trim_eq_self_iff.mp h.joined.trimmed)
  have howning := Text.trimChars_eq_self_iff.mp (Text.trim_eq_self_iff.mp h.owning.trimmed)
  have hjoinedNe : join.joined.toList ≠ [] := by simpa using h.joined.ne_empty
  have howningNe : join.owning.toList ≠ [] := by simpa using h.owning.ne_empty
  refine ⟨?_, Text.trim_eq_self_iff.mpr (Text.trimChars_eq_self_iff.mpr ⟨?_, ?_⟩), ?_⟩
  · rw [ne_eq, ← String.toList_inj, hlist]
    simp
  · rw [hlist, List.head?_append_of_ne_nil _ hjoinedNe]
    exact hjoined.1
  · rw [hlist, List.append_cons, List.getLast?_append_of_ne_nil _ howningNe]
    exact howning.2
  · rw [hlist]
    simp [h.joined.noSemicolon, h.owning.noSemicolon]

theorem columnList_columns {join : JoinTarget} (h : join.WellFormed) :
    columnList join.columns = [join.joined, join.owning] := by
  have hparts : Text.splitChars ',' join.columns.toList =
      [join.joined, join.owning].map String.toList := by
    refine Text.splitChars_joinWith rfl (List.cons_ne_nil _ _) ?_
    simp [h.joined_noComma, h.owning_noComma]
  have htrim : ∀ name, IsName name → String.ofList (Text.trimChars name.toList) = name :=
    fun name hname => hname.trimmed
  rw [columnList, hparts, List.map_map]
  simp [htrim _ h.joined, htrim _ h.owning]

theorem mem_pairs {tag : Tag} {pair : String × String} :
    pair ∈ tag.pairs ↔ pair = ("type", tag.operator.name) ∨
      (∃ column ∈ tag.column, pair = ("column", column)) ∨
      (∃ table ∈ tag.table, pair = ("table", table)) ∨
      (∃ join ∈ tag.join, pair = ("join", join.table) ∨ pair = ("on", join.columns)) ∨
      pair = ("group", tag.group.name) := by
  simp [pairs, eq_comm]

/-- A written tag does not skip its field: no operator is called `-`. -/
theorem skips_pairs (tag : Tag) : skips tag.pairs = false := by
  have hname : ∀ op ∈ Operator.all, op.name ≠ "-" := by decide
  refine List.any_eq_false.mpr fun pair hpair => ?_
  rcases mem_pairs.mp hpair with rfl | ⟨column, -, rfl⟩ | ⟨table, -, rfl⟩ |
    ⟨join, -, rfl | rfl⟩ | rfl
  · simpa using hname _ tag.operator.mem_all
  all_goals simp

namespace Draft

/-- The draft that a tag written down leads to. -/
def ofTag (tag : Tag) : Draft :=
  ⟨tag.operator, tag.column, tag.table, tag.join.map JoinTarget.table,
    (tag.join.map fun join => [join.joined, join.owning]).getD [], tag.group⟩

variable (draft : Draft)

@[simp] theorem add_type (op : Operator) :
    draft.add "type" op.name = .ok { draft with operator := op } := by
  simp [Draft.add]

theorem add_column {name : String} (hname : IsName name) :
    draft.add "column" name = .ok { draft with column := some name } := by
  simp [Draft.add, hname.ne_empty]

theorem add_table {name : String} (hname : IsName name) :
    draft.add "table" name = .ok { draft with table := some name } := by
  simp [Draft.add, hname.ne_empty]

theorem add_join {name : String} (hname : IsName name) :
    draft.add "join" name = .ok { draft with joinTable := some name } := by
  simp [Draft.add, hname.ne_empty]

theorem add_on {join : JoinTarget} (h : join.WellFormed) :
    draft.add "on" join.columns =
      .ok { draft with joinColumns := [join.joined, join.owning] } := by
  simp [Draft.add, columnList_columns h]

@[simp] theorem add_group (group : Group) :
    draft.add "group" group.name = .ok { draft with group := group } := by
  cases group <;> simp [Draft.add, Group.name]

variable {draft}

theorem addAll_cons {next : Draft} {key value : String} (h : draft.add key value = .ok next)
    (rest : List (String × String)) :
    draft.addAll ((key, value) :: rest) = next.addAll rest := by
  rw [addAll, h]

theorem addAll_column {column : Option String} (h : ∀ name ∈ column, IsName name)
    (rest : List (String × String)) :
    draft.addAll (column.toList.map (("column", ·)) ++ rest) =
      addAll { draft with column := column.or draft.column } rest := by
  cases column with
  | none => rfl
  | some name => exact addAll_cons (draft.add_column (h name rfl)) rest

theorem addAll_table {table : Option String} (h : ∀ name ∈ table, IsName name)
    (rest : List (String × String)) :
    draft.addAll (table.toList.map (("table", ·)) ++ rest) =
      addAll { draft with table := table.or draft.table } rest := by
  cases table with
  | none => rfl
  | some name => exact addAll_cons (draft.add_table (h name rfl)) rest

theorem addAll_join {join : Option JoinTarget} (h : ∀ target ∈ join, target.WellFormed)
    (rest : List (String × String)) :
    draft.addAll
        (join.toList.flatMap (fun target => [("join", target.table), ("on", target.columns)]) ++
          rest) =
      addAll { draft with
        joinTable := (join.map JoinTarget.table).or draft.joinTable
        joinColumns := (join.map fun target => [target.joined, target.owning]).getD
          draft.joinColumns } rest := by
  cases join with
  | none => rfl
  | some target =>
      have htarget := h target rfl
      exact (addAll_cons (draft.add_join htarget.table) _).trans
        (addAll_cons (add_on _ htarget) rest)

end Draft

section Written

variable {tag : Tag} (h : tag.WellFormed)
include h

theorem WellFormed.readable : ∀ pair ∈ tag.pairs, Readable pair := by
  intro pair hpair
  rcases mem_pairs.mp hpair with rfl | ⟨column, hcolumn, rfl⟩ | ⟨table, htable, rfl⟩ |
    ⟨join, hjoin, rfl | rfl⟩ | rfl
  · exact .of_isName (by decide) (isName_name tag.operator)
  · exact .of_isName (by decide) (h.column column hcolumn)
  · exact .of_isName (by decide) (h.table table htable)
  · exact .of_isName (by decide) (h.join join hjoin).table
  · exact .of_isName (by decide) (isName_columns (h.join join hjoin))
  · exact .of_isName (by decide) (isName_groupName tag.group)

theorem WellFormed.segments_text : segments tag.text.toList = tag.pairs :=
  segments_joinWith (List.cons_ne_nil _ _) h.readable

/-- A written tag is not only a dash, since it has segments. -/
theorem WellFormed.text_ne_dash : Text.trimChars tag.text.toList ≠ ['-'] := by
  intro hdash
  have hnone : tag.pairs = [] := by
    rw [← h.segments_text, ← segments_trimChars, hdash]
    rfl
  exact List.cons_ne_nil _ _ hnone

theorem WellFormed.addAll_pairs : Draft.empty.addAll tag.pairs = .ok (.ofTag tag) := by
  rw [pairs, Draft.addAll_cons (Draft.add_type _ _), List.append_assoc, List.append_assoc,
    Draft.addAll_column h.column, Draft.addAll_table h.table, Draft.addAll_join h.join,
    Draft.addAll_cons (Draft.add_group _ _)]
  simp [Draft.addAll, Draft.empty, Draft.ofTag]

theorem WellFormed.finish_ofTag : (Draft.ofTag tag).finish = .ok tag := by
  obtain ⟨operator, column, table, join, group⟩ := tag
  cases join with
  | none =>
      have hop : operator ≠ .join := by simpa using h.join_iff
      exact if_neg hop
  | some target =>
      have hop : operator = .join := by simpa using h.join_iff
      have htarget := h.join target rfl
      simp [Draft.ofTag, Draft.finish, Draft.joinTarget, hop, htarget.joined.ne_empty,
        htarget.owning.ne_empty]

/-- **A tag that can be written is what its text is read as.** -/
theorem WellFormed.parse_text : parse tag.text = .ok (some tag) := by
  rw [parse_eq_read h.text_ne_dash, h.segments_text, read, skips_pairs, h.addAll_pairs]
  simp [h.finish_ofTag]

end Written

/-! ## Round trip -/

/-- **Texts are read as the well-formed tags, and writing a tag down loses nothing of it.**  What a
text is read as is well formed; a well-formed tag is what its own text is read as; so a tag comes
out of some text exactly if it is well formed. -/
theorem text_round_trip (tag : Tag) :
    (∀ text, parse text = .ok (some tag) → tag.WellFormed) ∧
      (tag.WellFormed → parse tag.text = .ok (some tag)) ∧
      ((∃ text, parse text = .ok (some tag)) ↔ tag.WellFormed) :=
  ⟨fun _ => wellFormed_of_parse, WellFormed.parse_text,
    fun ⟨_, h⟩ => wellFormed_of_parse h, fun h => ⟨tag.text, h.parse_text⟩⟩

/-- A join with the orders of a user, as one of the alternatives. -/
def ordersOfUser : Tag := ⟨.join, none, none, some ⟨"orders", "user_id", "id"⟩, .or⟩

/-- A text with blanks, an operator that a later one replaces and a key that is no key is read as
the same tag as the text written from it. -/
theorem text_round_trip_ordersOfUser :
    parse " type:like; join : orders; on: user_id ,id; x:y;; type:join;group:or " =
        .ok (some ordersOfUser) ∧
      ordersOfUser.text = "type:join;join:orders;on:user_id,id;group:or" ∧
      ordersOfUser.WellFormed ∧ parse ordersOfUser.text = .ok (some ordersOfUser) := by
  have hparse : parse " type:like; join : orders; on: user_id ,id; x:y;; type:join;group:or " =
      .ok (some ordersOfUser) := by decide +kernel
  obtain ⟨hread, hwritten, -⟩ := text_round_trip ordersOfUser
  have hformed : ordersOfUser.WellFormed := hread _ hparse
  exact ⟨hparse, by decide, hformed, hwritten hformed⟩

end Tag

end SqlFilter
