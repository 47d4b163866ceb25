import SqlFilter.Declared
import SqlFilter.Definition
import SqlFilter.Proofs.Changes
import SqlFilter.Proofs.HeldFilters

/-!
# Filters that ask for nothing

A filter is empty if all its fields are zero.  Under a tag that is the end of it: the field is
passed over.  Without a tag the walk goes into a nested filter whatever its flag says, and so it
matters that flags follow from the data: a nested filter is zero exactly if all of its own fields
are.  Then every field that a walk of an empty filter visits is zero, at whatever depth, and a zero
field registers nothing and opens nothing.

What can still go wrong is on the surface, that is, in the filter and in the filters without tags
inside it: a tag that cannot be read, a field without a tag that holds a value, and too many
filters inside one another.

## Main results

* `Filter.Sourced`: the zero flags follow from the data. `Definition.sourced_toFilter`,
  `ToFilter.sourced_toFilter`.
* `Filter.Exposes`: the fields on the surface of a filter. `Filter.visits_of_isEmpty`: a walk of an
  empty filter visits these and no others.
* `Compiler.empty_filters_compile_to_nothing`.
-/

namespace SqlFilter

/-! ## Zero flags that follow from the data -/

mutual
/-- Every field of the filter, at any depth, is filled from some data. -/
def Filter.Sourced : Filter → Prop
  | ⟨_, fields⟩ => Field.AllSourced fields

/-- Every one of the fields, and every field inside them, is filled from some data. -/
def Field.AllSourced : List Field → Prop
  | [] => True
  | field :: rest => field.Sourced ∧ Field.AllSourced rest

/-- The field is filled from some data, and so is every field inside it. -/
def Field.Sourced : Field → Prop
  | ⟨name, tag, isZero, value⟩ =>
    (∃ source, Field.ofSource name tag source = ⟨name, tag, isZero, value⟩) ∧ value.Sourced

/-- Every field inside the value is filled from some data. -/
def FieldValue.Sourced : FieldValue → Prop
  | .nested inner => inner.Sourced
  | _ => True
end

/-- Data that is zero and holds a filter holds an empty one: data that is merely present is never
zero. -/
theorem Source.isEmpty_of_isZero {source : Source} {inner : Filter} (hzero : source.isZero = true)
    (hvalue : source.value = .nested inner) : inner.isEmpty = true := by
  cases source with
  | nested f =>
      cases hvalue
      exact hzero
  | present source => cases hzero
  | _ => cases hvalue

mutual
/-- **The filter of a definition is filled from data**, at every depth. -/
theorem Definition.sourced_toFilter : ∀ d : Definition, d.toFilter.Sourced
  | ⟨_, fields⟩ => FieldDefinition.sourced_toFields fields

theorem FieldDefinition.sourced_toFields : ∀ fields : List FieldDefinition,
    Field.AllSourced (FieldDefinition.toFields fields)
  | [] => trivial
  | field :: rest => ⟨field.sourced_toField, FieldDefinition.sourced_toFields rest⟩

theorem FieldDefinition.sourced_toField : ∀ field : FieldDefinition, field.toField.Sourced
  | ⟨_, _, value, filter⟩ => ⟨⟨_, rfl⟩, FieldDefinition.sourced_dataOf value filter⟩

theorem FieldDefinition.sourced_dataOf (value : Option Written) : ∀ filter : Option Definition,
    (FieldDefinition.dataOf value filter).value.Sourced
  | some inner => inner.sourced_toFilter
  | none => by
      unfold FieldDefinition.dataOf
      cases value with
      | none => trivial
      | some written =>
          cases written with
          | list items => trivial
          | scalar item => cases item <;> trivial
end

theorem Field.allSourced_iff (fields : List Field) :
    Field.AllSourced fields ↔ ∀ field ∈ fields, field.Sourced := by
  induction fields with
  | nil => exact iff_of_true trivial (List.forall_mem_nil _)
  | cons field rest ih => rw [Field.AllSourced, List.forall_mem_cons, ih]

/-- **A declared filter is filled from data**, at every depth if that holds of the filters in its
data. -/
theorem ToFilter.sourced_toFilter {α : Type} [ToFilter α] (a : α)
    (h : ∀ field ∈ fields a, field.source.value.Sourced) : (toFilter a).Sourced := by
  rw [toFilter, Filter.Sourced, Field.allSourced_iff, List.forall_mem_map]
  exact fun field hfield => ⟨⟨field.source, rfl⟩, h field hfield⟩

/-! ## The surface of a filter -/

/-- The field is in the filter, or in filters without tags inside it: so many of them. -/
inductive Filter.Exposes : Filter → Nat → Field → Prop
  | here {f : Filter} {field : Field} (h : field ∈ f.fields) : f.Exposes 0 field
  | inside {f inner : Filter} {outer field : Field} {depth : Nat} (h : outer ∈ f.fields)
      (htag : outer.tag = none) (hvalue : outer.value = .nested inner)
      (hinner : inner.Exposes depth field) : f.Exposes (depth + 1) field

/-- Whatever is on the surface of a filter is visited. -/
theorem Filter.Exposes.exists_visit {f : Filter} {depth : Nat} {field : Field}
    (h : f.Exposes depth field) (d : Dialect) (p : Place) :
    ∃ v ∈ f.visits d p, v.place.depth = p.depth + depth ∧ v.field = field := by
  induction h generalizing p with
  | @here f field hmem =>
      rcases f with ⟨table, fields⟩
      refine ⟨⟨p.inTable table, field⟩, ?_, rfl, rfl⟩
      rw [Filter.visits, Field.visitsAll_eq_flatMap, List.mem_flatMap]
      obtain ⟨inside, hvisits, -⟩ := Field.visits_eq_cons d (p.inTable table) field
      exact ⟨field, hmem, hvisits ▸ List.mem_cons_self⟩
  | @inside f inner outer field depth hmem htag hvalue hinner ih =>
      rcases f with ⟨table, fields⟩
      rcases outer with ⟨name, tag, isZero, value⟩
      cases htag
      cases hvalue
      obtain ⟨v, hv, hdepth, hfield⟩ := ih (p.inTable table).inside
      refine ⟨v, ?_, ?_, hfield⟩
      · rw [Filter.visits, Field.visitsAll_eq_flatMap, List.mem_flatMap]
        refine ⟨_, hmem, ?_⟩
        rw [Field.visits]
        exact List.mem_cons_of_mem _ hv
      · rw [hdepth]
        show p.depth + 1 + depth = p.depth + (depth + 1)
        omega

section Visits

variable {d : Dialect} {v : Visit}

mutual
/-- **A walk of an empty filter visits the fields on its surface and no others**, and all of them
are zero. -/
theorem Filter.visits_of_isEmpty : ∀ (f : Filter) (p : Place), f.Sourced → f.isEmpty = true →
    v ∈ f.visits d p →
      ∃ depth, v.place.depth = p.depth + depth ∧ f.Exposes depth v.field ∧ v.field.isZero = true
  | ⟨table, fields⟩, p, hsourced, hempty, hv =>
      Field.visitsAll_of_isZero fields (p.inTable table) ⟨table, fields⟩ (fun _ h => h) hsourced
        (List.all_eq_true.mp hempty) hv

theorem Field.visitsAll_of_isZero : ∀ (fields : List Field) (p : Place) (f : Filter),
    (∀ field ∈ fields, field ∈ f.fields) → Field.AllSourced fields →
    (∀ field ∈ fields, field.isZero = true) → v ∈ Field.visitsAll d p fields →
      ∃ depth, v.place.depth = p.depth + depth ∧ f.Exposes depth v.field ∧ v.field.isZero = true
  | [], _, _, _, _, _, hv => by
      rw [Field.visitsAll] at hv
      cases hv
  | field :: rest, p, f, hmem, hsourced, hzero, hv => by
      rw [Field.visitsAll] at hv
      rw [List.forall_mem_cons] at hmem hzero
      rcases List.mem_append.mp hv with hv | hv
      · exact Field.visits_of_isZero field p f hmem.1 hsourced.1 hzero.1 hv
      · exact Field.visitsAll_of_isZero rest p f hmem.2 hsourced.2 hzero.2 hv

theorem Field.visits_of_isZero : ∀ (field : Field) (p : Place) (f : Filter), field ∈ f.fields →
    field.Sourced → field.isZero = true → v ∈ field.visits d p →
      ∃ depth, v.place.depth = p.depth + depth ∧ f.Exposes depth v.field ∧ v.field.isZero = true
  | ⟨name, none, isZero, value⟩, p, f, hmem, ⟨⟨source, hsource⟩, hvalue⟩, hzero, hv => by
      have hinner : ∀ inner, value = .nested inner → inner.isEmpty = true := by
        intro inner hnested
        have hflag : source.isZero = isZero := congrArg Field.isZero hsource
        have hdata : source.value = value := congrArg Field.value hsource
        exact Source.isEmpty_of_isZero (hflag.trans hzero) (hdata.trans hnested)
      rw [Field.visits] at hv
      rcases List.mem_cons.mp hv with rfl | hv
      · exact ⟨0, rfl, .here hmem, hzero⟩
      · obtain ⟨inner, depth, hnested, hdepth, hexposes, hzero⟩ :=
          FieldValue.visits_of_isZero value p.inside hvalue hinner hv
        refine ⟨depth + 1, ?_, .inside hmem rfl hnested hexposes, hzero⟩
        rw [hdepth]
        show p.depth + 1 + depth = p.depth + (depth + 1)
        omega
  | ⟨name, some text, isZero, value⟩, p, f, hmem, _, hzero, hv => by
      have hself : v = ⟨p, ⟨name, some text, isZero, value⟩⟩ := by
        cases hzero
        rw [Field.visits] at hv
        rcases List.mem_cons.mp hv with rfl | hv
        · rfl
        · split at hv <;> cases hv
      rw [hself]
      exact ⟨0, rfl, .here hmem, hzero⟩

theorem FieldValue.visits_of_isZero : ∀ (value : FieldValue) (p : Place), value.Sourced →
    (∀ inner, value = .nested inner → inner.isEmpty = true) → v ∈ value.visits d p →
      ∃ inner depth, value = .nested inner ∧ v.place.depth = p.depth + depth ∧
        inner.Exposes depth v.field ∧ v.field.isZero = true
  | .nested inner, p, hsourced, hempty, hv => by
      obtain ⟨depth, hdepth, hexposes, hzero⟩ :=
        Filter.visits_of_isEmpty inner p hsourced (hempty inner rfl) hv
      exact ⟨inner, depth, rfl, hdepth, hexposes, hzero⟩
  | .null, _, _, _, hv => by cases hv
  | .scalar _, _, _, _, hv => by cases hv
  | .list _, _, _, _, hv => by cases hv
end

end Visits

/-! ## What can be wrong with an empty filter -/

/-- Nothing is wrong with a zero field that has so many filters around it. -/
structure Field.SoundUnder (maxDepth depth : Nat) (field : Field) : Prop where
  /-- Its tag can be read. -/
  readable : ∀ text, field.tag = some text → ∃ parsed, Tag.parse text = .ok parsed
  /-- Without a tag it holds a filter or nothing. -/
  fitting : field.tag = none → field.value.kind = .nested ∨ field.value.kind = .null
  /-- A filter that it holds without a tag does not lie too deep. -/
  shallow : field.tag = none → field.value.kind = .nested → depth + 1 ≤ maxDepth

/-- Nothing is wrong on the surface of the filter. -/
def Filter.SoundSurface (maxDepth : Nat) (f : Filter) : Prop :=
  ∀ depth field, f.Exposes depth field → field.SoundUnder maxDepth depth

/-- A zero field is offending only for what can be seen of it without its operator. -/
theorem Visit.sound_iff_of_isZero {v : Visit} (hzero : v.field.isZero = true) (maxDepth : Nat) :
    (∀ e, ¬ v.Offends maxDepth e) ↔ v.field.SoundUnder maxDepth v.place.depth := by
  constructor
  · intro hsound
    refine ⟨?_, ?_, ?_⟩
    · intro text htext
      cases hparse : Tag.parse text with
      | error cause => exact absurd (.unreadable htext hparse) (hsound _)
      | ok parsed => exact ⟨parsed, rfl⟩
    · intro htag
      cases hkind : v.field.value.kind with
      | nested => exact .inl rfl
      | null => exact .inr rfl
      | scalar => exact absurd (.untagged htag (.inl hkind)) (hsound _)
      | list => exact absurd (.untagged htag (.inr hkind)) (hsound _)
    · intro htag hkind
      by_contra hdepth
      exact hsound _ (.tooDeep ⟨hkind, .inl htag⟩ (Nat.lt_of_not_le hdepth))
  · rintro ⟨hreadable, hfitting, hshallow⟩ e hoffends
    cases hoffends with
    | untagged htag hkind =>
        rcases hfitting htag with hfits | hfits <;> rw [hfits] at hkind <;> simp at hkind
    | unreadable htext hparse =>
        obtain ⟨parsed, hok⟩ := hreadable _ htext
        rw [hparse] at hok
        cases hok
    | unsupported htag hnonzero => rw [hzero] at hnonzero; cases hnonzero
    | unjoined htag hnonzero => rw [hzero] at hnonzero; cases hnonzero
    | tooDeep henters hdepth =>
        rcases henters.entered with htag | ⟨tag, -, hnonzero, -⟩
        · exact absurd (hshallow htag henters.nested) (Nat.not_le_of_lt hdepth)
        · rw [hzero] at hnonzero
          cases hnonzero

theorem Visit.registration?_of_isZero {v : Visit} (hzero : v.field.isZero = true) (d : Dialect) :
    v.registration? d = none := by
  unfold Visit.registration?
  split
  · rfl
  · exact if_pos hzero

/-! ## Compiling an empty filter -/

namespace Compiler

/-- An empty filter compiles to the empty condition or not at all. -/
theorem compile_eq_empty_or_error (c : Compiler) {f : Filter} (hsourced : f.Sourced)
    (hempty : f.isEmpty = true) : c.compile f = .ok .empty ∨ ∃ e, c.compile f = .error e := by
  cases hcompile : c.compile f with
  | error e => exact .inr ⟨e, rfl⟩
  | ok condition =>
      obtain ⟨-, rfl⟩ := (c.compile_eq_ok_iff_sound f condition).mp hcompile
      have hnone : (f.visits c.dialect (.root f.table)).filterMap
          (Visit.registration? c.dialect) = [] := by
        rw [List.filterMap_eq_nil_iff]
        intro v hv
        obtain ⟨depth, -, -, hzero⟩ := f.visits_of_isEmpty _ hsourced hempty hv
        exact Visit.registration?_of_isZero hzero c.dialect
      rw [hnone]
      exact .inl rfl

/-- An empty filter compiles exactly if nothing is wrong on its surface. -/
theorem compile_eq_empty_iff (c : Compiler) {f : Filter} (hsourced : f.Sourced)
    (hempty : f.isEmpty = true) : c.compile f = .ok .empty ↔ f.SoundSurface c.maxDepth := by
  have hok : c.compile f = .ok .empty ↔
      ∀ v ∈ f.visits c.dialect (.root f.table), ∀ e, ¬ v.Offends c.maxDepth e := by
    constructor
    · intro hcompile
      exact ((c.compile_eq_ok_iff_sound f _).mp hcompile).1
    · intro hsound
      rcases c.compile_eq_empty_or_error hsourced hempty with hcompile | ⟨e, hcompile⟩
      · exact hcompile
      · rw [(c.compile_eq_ok_iff_sound f _).mpr ⟨hsound, rfl⟩] at hcompile
        cases hcompile
  rw [hok]
  constructor
  · intro hsound depth field hexposes
    obtain ⟨v, hv, hdepth, rfl⟩ := hexposes.exists_visit c.dialect (.root f.table)
    obtain ⟨-, -, -, hzero⟩ := f.visits_of_isEmpty _ hsourced hempty hv
    have hfield := (Visit.sound_iff_of_isZero hzero c.maxDepth).mp (hsound v hv)
    rwa [hdepth, Place.root, Nat.zero_add] at hfield
  · intro hsurface v hv
    obtain ⟨depth, hdepth, hexposes, hzero⟩ := f.visits_of_isEmpty _ hsourced hempty hv
    rw [Visit.sound_iff_of_isZero hzero, hdepth, Place.root, Nat.zero_add]
    exact hsurface depth v.field hexposes

/-- A declared filter whose data is all zero compiles to nothing, unless something is wrong on its
surface. -/
theorem compile_toFilter_eq_empty_iff (c : Compiler) {α : Type} [ToFilter α] {a : α}
    (hsourced : ∀ field ∈ ToFilter.fields a, field.source.value.Sourced)
    (hzero : ∀ field ∈ ToFilter.fields a, field.source.isZero = true) :
    c.compile (ToFilter.toFilter a) = .ok .empty ↔
      (ToFilter.toFilter a).SoundSurface c.maxDepth :=
  c.compile_eq_empty_iff (ToFilter.sourced_toFilter a hsourced)
    ((ToFilter.isEmpty_toFilter_iff a).mpr hzero)

example : (⟨.mysql, 1⟩ : Compiler).compile (ToFilter.toFilter ({} : AccountQuery)) =
    .ok .empty := by
  decide +kernel

/-- The filter compiles to the condition that asks for nothing, without even an empty join, or it
does not compile; and what decides is whether something is wrong on its surface. -/
structure FindsNothing (c : Compiler) (f : Filter) : Prop where
  empty_or_error : c.compile f = .ok .empty ∨ ∃ e, c.compile f = .error e
  empty_iff : c.compile f = .ok .empty ↔ f.SoundSurface c.maxDepth

/-- **An empty filter compiles to nothing.**  That holds of every empty definition and of every
empty filter whose zero flags follow from its data, at any depth, in either dialect and under any
limit: no predicate, no sort term and no join comes of it. -/
theorem empty_filters_compile_to_nothing (c : Compiler) :
    (∀ d : Definition, d.toFilter.isEmpty = true → c.FindsNothing d.toFilter) ∧
      ∀ f : Filter, f.Sourced → f.isEmpty = true → c.FindsNothing f := by
  have hfilter : ∀ f : Filter, f.Sourced → f.isEmpty = true → c.FindsNothing f :=
    fun f hsourced hempty =>
      ⟨c.compile_eq_empty_or_error hsourced hempty, c.compile_eq_empty_iff hsourced hempty⟩
  exact ⟨fun d hempty => hfilter d.toFilter d.sourced_toFilter hempty, hfilter⟩

/-- Users, with a page that is not sorted, orders that are not filtered, and no states. -/
def anyUsers : Definition :=
  ⟨"users", [⟨"Page", none, none, some ⟨"", [⟨"Sort", some "type:order", some (.scalar (.text "")),
      none⟩, ⟨"Next", none, none, none⟩]⟩⟩,
    ⟨"Orders", some "type:join;join:orders;on:user_id,id", none,
      some ⟨"orders", [⟨"Total", some "type:gte", some (.scalar (.int 0)), none⟩]⟩⟩,
    ⟨"States", some "type:in", some (.list []), none⟩]⟩

theorem empty_filters_compile_to_nothing_anyUsers :
    anyUsers.toFilter.isEmpty = true ∧ anyUsers.toFilter.Sourced ∧
      (⟨.postgres, 1⟩ : Compiler).compile anyUsers.toFilter = .ok .empty ∧
      anyUsers.toFilter.SoundSurface 1 ∧
      (∃ e, (⟨.postgres, 0⟩ : Compiler).compile anyUsers.toFilter = .error e) ∧
      ¬ anyUsers.toFilter.SoundSurface 0 := by
  have hempty : anyUsers.toFilter.isEmpty = true := by decide
  have hcompile : (⟨.postgres, 1⟩ : Compiler).compile anyUsers.toFilter = .ok .empty := by
    decide +kernel
  have hdeep : (⟨.postgres, 0⟩ : Compiler).compile anyUsers.toFilter = .error (.tooDeep 0) := by
    decide +kernel
  have hone := (empty_filters_compile_to_nothing ⟨.postgres, 1⟩).1 anyUsers hempty
  have hzero := (empty_filters_compile_to_nothing ⟨.postgres, 0⟩).2 anyUsers.toFilter
    anyUsers.sourced_toFilter hempty
  refine ⟨hempty, anyUsers.sourced_toFilter, hcompile, hone.empty_iff.mp hcompile, ⟨_, hdeep⟩, ?_⟩
  intro hsurface
  rw [hzero.empty_iff.mpr hsurface] at hdeep
  cases hdeep

end Compiler

end SqlFilter
