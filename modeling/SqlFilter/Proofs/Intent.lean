import SqlFilter.Proofs.Demand
import SqlFilter.Proofs.Offence
import SqlFilter.Proofs.SortTerms

/-!
# What a filter is to register, whatever the dialect

What a filter registers depends on the dialect only in how it is written.  An `Intent` is a
registration before it is written: the joins to its scope as what their tags say, and a demand, a
sort or nothing but the scope.  `Filter.intents` lists the intents of a filter, and a compiled
condition is these intents written in the dialect and registered one by one.

Whether a filter compiles depends on the dialect even less.  What makes a field offending is its
tag, its value and the depth, so both dialects stop at the same field with the same error.

## Main results

* `Intent`, `Intent.write`, `Filter.intents`.
* `Compiler.eq_registerAll_intents`: a compiled condition, from the intents.
* `Compiler.error_trace_eq`: both dialects fail alike.
* `Filter.Named.plain_of_mem_intents`: the names in intents.
-/

namespace SqlFilter

/-! ## Intents -/

/-- What an intent brings into its scope. -/
inductive Content where
  | test (group : Group) (asked : Asked)
  | sort (target : Target) (direction : Direction)
  /-- Nothing but the scope itself. -/
  | scope
  deriving DecidableEq

/-- A content and the joins that lead to its scope. -/
structure Intent where
  path : List Hop
  content : Content
  deriving DecidableEq

/-- The content as the dialect writes it. -/
def Content.write (d : Dialect) : Content → Clause
  | .test group asked => .predicate group (asked.write d)
  | .sort target direction => .order (d.column target ++ " " ++ direction.name)
  | .scope => .scope

/-- The intent as the dialect writes it. -/
def Intent.write (d : Dialect) (e : Intent) : Registration :=
  ⟨e.path.map (Hop.clause d), e.content.write d⟩

/-- What a text asks to sort by. -/
def sort? (target : Target) (request : String) : Option Content :=
  let request := Text.trim request
  match Order.guard? request with
  | some order => some (.sort ⟨target.table, order.column⟩ order.direction)
  | none => (Direction.ofText? request).map fun direction => .sort target direction

/-- What a field is to register under a tag, seen from the scope that the field is in; nothing if
the field fails. -/
def intent? (tag : Tag) (target : Target) (value : FieldValue) : Option Intent :=
  match tag.operator with
  | .order =>
    match value with
    | .scalar (.text request) => (sort? target request).map (Intent.mk [])
    | _ => none
  | .join =>
    match tag.join, value with
    | some join, .nested _ => some ⟨[⟨join, target⟩], .scope⟩
    | _, _ => none
  | op => (asked? target op value).map fun asked => ⟨[], .test tag.group asked⟩

/-- What a stop is to register. -/
def Stop.intent? (s : Stop) : Option Intent :=
  match s.field.readTag with
  | none => none
  | some tag =>
    if s.field.isZero then none
    else
      (SqlFilter.intent? tag (Compiler.target tag s.route.table s.field.name) s.field.value).map
        fun e => ⟨s.route.hops ++ e.path, e.content⟩

/-- What a filter is to register that stands in no other. -/
def Filter.intents (f : Filter) : List Intent := (f.stops (.root f.table)).filterMap Stop.intent?

/-! ## Intents are what is registered -/

/-- What a text asks to sort by: a column of the target's table, its own or a plain one. -/
theorem exists_of_sort?_eq_some {target : Target} {request : String} {content : Content}
    (h : sort? target request = some content) :
    ∃ column direction, content = .sort ⟨target.table, column⟩ direction ∧
      (column = target.column ∨ Order.IsPlainColumn column) := by
  unfold sort? at h
  cases hguard : Order.guard? (Text.trim request) with
  | some order =>
      simp only [hguard, Option.some.injEq] at h
      exact ⟨order.column, order.direction, h.symm, .inr (Order.request_of_guard? hguard).2⟩
  | none =>
      simp only [hguard, Option.map_eq_some_iff] at h
      obtain ⟨direction, -, rfl⟩ := h
      exact ⟨target.column, direction, rfl, .inl rfl⟩

theorem orderTerm?_eq_sort? (d : Dialect) (target : Target) (request : String) :
    (orderTerm? d target request).map Clause.order =
      (sort? target request).map (Content.write d) := by
  unfold orderTerm? sort?
  cases hguard : Order.guard? (Text.trim request) with
  | some order => simp only [hguard, Option.map_some, Content.write, Dialect.column]
  | none =>
      cases hdirection : Direction.ofText? (Text.trim request) with
      | some direction => simp only [hguard, hdirection, Option.map_some, Content.write]
      | none => simp only [hguard, hdirection, Option.map_none]

/-- What a sort field emits is its intent as the dialect writes it. -/
theorem registered?_of_order {tag : Tag} (hop : tag.operator = .order) (d : Dialect)
    (target : Target) (name : String) (value : FieldValue) :
    registered? d tag target name value = (intent? tag target value).map (Intent.write d) := by
  have hintent : ∀ request, intent? tag target (.scalar (.text request)) =
      (sort? target request).map (Intent.mk []) := by
    intro request
    simp only [intent?, hop]
  rcases emit_of_order (d := d) hop target name value with
    ⟨request, term, rfl, hterm, hemit⟩ | ⟨hnone, hemit⟩
  · have hsort := orderTerm?_eq_sort? d target request
    rw [hterm, Option.map_some, eq_comm, Option.map_eq_some_iff] at hsort
    obtain ⟨content, hsort, hclause⟩ := hsort
    rw [registered?, hemit, hintent, hsort, Option.map_some, Option.map_some, Intent.write, hclause]
    rfl
  · rw [registered?, hemit]
    by_cases hvalue : ∃ request, value = .scalar (.text request)
    · obtain ⟨request, rfl⟩ := hvalue
      have hsort := orderTerm?_eq_sort? d target request
      rw [hnone request rfl, Option.map_none, eq_comm, Option.map_eq_none_iff] at hsort
      rw [hintent, hsort]
      rfl
    · have hother : intent? tag target value = none := by
        simp only [intent?, hop]
        split
        · rename_i request
          exact absurd ⟨request, rfl⟩ hvalue
        · rfl
      rw [hother]
      rfl

/-- What a field emits, if it emits anything, is its intent as the dialect writes it. -/
theorem registered?_eq_intent? {text : String} {tag : Tag}
    (hparse : Tag.parse text = .ok (some tag)) (d : Dialect) (target : Target) (name : String)
    (value : FieldValue) :
    registered? d tag target name value = (intent? tag target value).map (Intent.write d) := by
  by_cases horder : tag.operator = .order
  · exact registered?_of_order horder d target name value
  · by_cases hjoin : tag.operator = .join
    · obtain ⟨join, htarget⟩ := (Tag.operator_eq_join_iff_of_parse hparse).mp hjoin
      simp only [registered?, emit, intent?, hjoin, htarget]
      cases value <;> rfl
    · have hpredicate := predicate?_eq_asked? d target tag.operator value
      have hintent : intent? tag target value =
          (asked? target tag.operator value).map fun asked => ⟨[], .test tag.group asked⟩ := by
        unfold intent?
        split
        · rename_i hop
          exact absurd hop horder
        · rename_i hop
          exact absurd hop hjoin
        · rfl
      rw [registered?, emit_of_predicate horder hjoin, hintent, hpredicate]
      cases asked? target tag.operator value <;> rfl

/-- A stop has an intent only under a tag, and only if it is not zero. -/
theorem Stop.exists_of_intent?_eq_some {s : Stop} {e : Intent} (h : s.intent? = some e) :
    ∃ tag inner, s.field.HasTag tag ∧ s.field.isZero = false ∧
      SqlFilter.intent? tag (Compiler.target tag s.route.table s.field.name) s.field.value =
        some inner ∧ e = ⟨s.route.hops ++ inner.path, inner.content⟩ := by
  unfold Stop.intent? at h
  cases hread : s.field.readTag with
  | none =>
      rw [hread] at h
      cases h
  | some tag =>
      cases hzero : s.field.isZero with
      | true =>
          rw [hread, hzero] at h
          cases h
      | false =>
          simp only [hread, hzero, Bool.false_eq_true, ↓reduceIte, Option.map_eq_some_iff] at h
          obtain ⟨inner, hinner, rfl⟩ := h
          exact ⟨tag, inner, Field.readTag_eq_some_iff.mp hread, rfl, hinner, rfl⟩

/-- An intent is a test only if that is what the operator asks. -/
theorem asked?_of_intent?_eq_test {tag : Tag} {target : Target} {value : FieldValue} {e : Intent}
    (h : intent? tag target value = some e) {group : Group} {asked : Asked}
    (hcontent : e.content = .test group asked) :
    asked? target tag.operator value = some asked := by
  unfold intent? at h
  split at h
  · split at h
    · obtain ⟨content, hsort, rfl⟩ := Option.map_eq_some_iff.mp h
      obtain ⟨column, direction, rfl, -⟩ := exists_of_sort?_eq_some hsort
      cases hcontent
    · cases h
  · split at h
    · cases h
      cases hcontent
    · cases h
  · obtain ⟨found, hfound, rfl⟩ := Option.map_eq_some_iff.mp h
    cases hcontent
    exact hfound

/-- What a stop registers is its intent as the dialect writes it. -/
theorem Stop.registration?_visit (d : Dialect) (s : Stop) :
    (s.visit d).registration? d = s.intent?.map (Intent.write d) := by
  have hwrite : ∀ e : Intent,
      Registration.mk (s.route.path d ++ (e.write d).path) (e.write d).clause =
        Intent.write d ⟨s.route.hops ++ e.path, e.content⟩ := by
    intro e
    simp only [Intent.write, Route.path, List.map_append]
  rcases s with ⟨route, field⟩
  simp only [Visit.registration?, Stop.intent?, Stop.visit]
  cases hread : field.readTag with
  | none => rfl
  | some tag =>
      obtain ⟨text, -, hparse⟩ := Field.readTag_eq_some_iff.mp hread
      have hintent := registered?_eq_intent? hparse d
        (Compiler.target tag route.table field.name) field.name field.value
      by_cases hzero : field.isZero = true
      · simp only [hzero, ↓reduceIte, Option.map_none]
      · simp only [hzero, Bool.false_eq_true, ↓reduceIte, Route.place, hintent, Option.map_map]
        exact congrArg (Option.map · _) (funext hwrite)

/-! ## Both dialects fail alike -/

/-- Whether a visited field is offending has nothing to do with the joins around it. -/
theorem Visit.Offends.elsewhere {maxDepth : Nat} {path path' : List String} {depth : Nat}
    {table : String} {field : Field} {e : CompileError}
    (h : Visit.Offends maxDepth ⟨⟨path, depth, table⟩, field⟩ e) :
    Visit.Offends maxDepth ⟨⟨path', depth, table⟩, field⟩ e := by
  cases h with
  | untagged htag hkind => exact .untagged htag hkind
  | unreadable htag hparse => exact .unreadable htag hparse
  | unsupported htag hzero hop htakes => exact .unsupported htag hzero hop htakes
  | unjoined htag hzero hop hkind => exact .unjoined htag hzero hop hkind
  | tooDeep henters hdepth => exact .tooDeep ⟨henters.nested, henters.entered⟩ hdepth

/-- The error of traces in order is the first error among them. -/
theorem Trace.error_inOrder (ts : List Trace) : (inOrder ts).error = ts.findSome? Trace.error := by
  induction ts with
  | nil => rfl
  | cons t rest ih =>
      rw [inOrder, andThen, List.findSome?_cons]
      cases ht : t.error with
      | none => exact ih
      | some e => exact ht

namespace Compiler

/-- **Both dialects fail alike**, with the same error at the same field. -/
theorem error_trace_eq (d d' : Dialect) (maxDepth : Nat) (f : Filter) (parent : String) :
    ((⟨d, maxDepth⟩ : Compiler).trace 0 parent f).error =
      ((⟨d', maxDepth⟩ : Compiler).trace 0 parent f).error := by
  have hstop : ∀ s : Stop, ((s.visit d).trace ⟨d, maxDepth⟩).error =
      ((s.visit d').trace ⟨d', maxDepth⟩).error := by
    intro s
    refine Option.ext fun e => ?_
    rw [error_trace_iff, error_trace_iff]
    exact ⟨fun h => h.elsewhere, fun h => h.elsewhere⟩
  have herror : ∀ d : Dialect, ((⟨d, maxDepth⟩ : Compiler).trace 0 parent f).error =
      (f.stops (.root parent)).findSome? fun s => ((s.visit d).trace ⟨d, maxDepth⟩).error := by
    intro d
    rw [trace_root, Trace.error_inOrder, Filter.visits_root, List.findSome?_map, List.findSome?_map]
    rfl
  rw [herror d, herror d']
  exact congrArg (List.findSome? · _) (funext hstop)

/-- **A compiled condition consists of the intents of the filter**, written in the dialect and
registered one by one. -/
theorem eq_registerAll_intents {c : Compiler} {f : Filter} {condition : Condition}
    (h : c.compile f = .ok condition) :
    condition = Condition.empty.registerAll (f.intents.map (Intent.write c.dialect)) := by
  have hsteps : (f.visits c.dialect (.root f.table)).filterMap (Visit.registration? c.dialect) =
      f.intents.map (Intent.write c.dialect) := by
    rw [Filter.visits_root, List.filterMap_map, Filter.intents, List.map_filterMap]
    exact List.filterMap_congr fun s _ => s.registration?_visit c.dialect
  rw [((c.compile_eq_ok_iff_sound f condition).mp h).2, hsteps]

end Compiler

/-! ## The names in intents -/

/-- The names in the content are bare. -/
def Content.Plain : Content → Prop
  | .test _ asked => asked.demand.Plain
  | .sort target _ => Bare target.table ∧ Bare target.column
  | .scope => True

/-- The names in the intent are bare. -/
structure Intent.Plain (e : Intent) : Prop where
  path : ∀ hop ∈ e.path, hop.Plain
  content : e.content.Plain

theorem Intent.Plain.demand {e : Intent} (h : e.Plain) {group : Group} {asked : Asked}
    (hcontent : e.content = .test group asked) : asked.demand.Plain := by
  have hplain := h.content
  rw [hcontent] at hplain
  exact hplain

theorem Order.IsPlainColumn.bare {column : String} (h : IsPlainColumn column) : Bare column :=
  ⟨h.notMem (by decide), h.notMem (by decide), h.notMem (by decide)⟩

theorem plain_of_sort? {target : Target} {request : String} {content : Content}
    (h : sort? target request = some content) (htable : Bare target.table)
    (hcolumn : Bare target.column) : content.Plain := by
  obtain ⟨column, direction, rfl, hchosen⟩ := exists_of_sort?_eq_some h
  rcases hchosen with rfl | hplain
  · exact ⟨htable, hcolumn⟩
  · exact ⟨htable, hplain.bare⟩

/-- The intent of a field under a plain tag is plain. -/
theorem plain_of_intent? {tag : Tag} {target : Target} {value : FieldValue} {e : Intent}
    (h : intent? tag target value = some e) (htag : tag.Named Bare) (htable : Bare target.table)
    (hcolumn : tag.operator ≠ .join → Bare target.column) : e.Plain := by
  have hnone : ∀ hop ∈ ([] : List Hop), hop.Plain := by
    intro hop hmem
    cases hmem
  unfold intent? at h
  split at h
  · rename_i hop
    have hother : tag.operator ≠ .join := by simp [hop]
    split at h
    · obtain ⟨content, hsort, rfl⟩ := Option.map_eq_some_iff.mp h
      exact ⟨hnone, plain_of_sort? hsort htable (hcolumn hother)⟩
    · cases h
  · split at h
    · rename_i join _ hjoin
      cases h
      refine ⟨?_, trivial⟩
      intro hop hmem
      rw [List.mem_singleton.mp hmem]
      exact ⟨htag.join join hjoin, htable⟩
    · cases h
  · rename_i hother
    obtain ⟨asked, hasked, rfl⟩ := Option.map_eq_some_iff.mp h
    exact ⟨hnone, Demand.plain_of_asked? hasked htable (hcolumn hother)⟩

/-- **The intents of a filter with bare names are plain.** -/
theorem Filter.Named.plain_of_mem_intents {f : Filter} (h : f.Named Bare) {e : Intent}
    (he : e ∈ f.intents) : e.Plain := by
  obtain ⟨s, hs, hintent⟩ := List.mem_filterMap.mp he
  obtain ⟨hroute, hfield⟩ := h.stops_root hs
  obtain ⟨tag, inner, htag, hzero, hinner, rfl⟩ := Stop.exists_of_intent?_eq_some hintent
  have hnamed := hfield.tag tag htag
  have hplain := plain_of_intent? hinner hnamed (hnamed.target_table hroute.table _)
    fun hop => hfield.target_column (fun _ => Bare.snakeCase) htag hzero hop _
  refine ⟨?_, hplain.content⟩
  intro hop hmem
  rcases List.mem_append.mp hmem with hmem | hmem
  · exact hroute.hops hop hmem
  · exact hplain.path hop hmem

end SqlFilter
