import SqlFilter.Proofs.Outcome
import Mathlib.Data.List.Basic

/-!
# The first offending field

A visited field is offending if it has no tag and holds no filter, if its tag cannot be read, if
its operator cannot take what it holds, or if the filter in it lies too deep.  `Visit.Offends` says
so of one field and the place where it is met, with the error that goes with each fault, and
without a word about walks.

A filter compiles exactly if no visited field is offending, and otherwise the error is that of the
first one.  What has been registered by then is what the fields up to that one register, so nothing
that comes after it has any bearing on the error or on what is left behind.

## Main results

* `Operator.Takes`, `predicate?_eq_none_iff`, `emit_eq_error_iff`: which operators take what.
* `Visit.Offends`, `Compiler.error_contribution_iff`: a visited field fails exactly if it offends.
* `Compiler.stops_at_first_offence`.
-/

namespace SqlFilter

/-! ## What an operator can take -/

/-- Whether the operator can take a value of the kind. -/
def Operator.Takes : Operator → ValueKind → Prop
  | .compare _, kind => kind = .scalar
  | .like _ _, kind => kind = .scalar
  | .oneOf, kind => kind = .scalar ∨ kind = .list
  | .join, kind => kind = .nested
  | .isNull, _ => True
  | .isNotNull, _ => True
  | .order, _ => True

/-- An operator has no predicate for a value exactly if it cannot take it. -/
theorem predicate?_eq_none_iff (d : Dialect) (target : Target) {op : Operator}
    (horder : op ≠ .order) (hjoin : op ≠ .join) (value : FieldValue) :
    predicate? d target op value = none ↔ ¬ op.Takes value.kind := by
  cases op with
  | compare relation => cases value <;> simp [predicate?, Operator.Takes, FieldValue.kind]
  | like anchor ignoreCase => cases value <;> simp [predicate?, Operator.Takes, FieldValue.kind]
  | oneOf =>
      cases value with
      | list vs => cases vs <;> simp [predicate?, Operator.Takes, FieldValue.kind]
      | _ => simp [predicate?, Operator.Takes, FieldValue.kind]
  | isNull => simp [predicate?, Operator.Takes]
  | isNotNull => simp [predicate?, Operator.Takes]
  | order => exact absurd rfl horder
  | join => exact absurd rfl hjoin

/-- The error of a field whose operator cannot take its value. A join that holds no filter is
reported as such, and about the table it would be joined to. -/
def refusal (tag : Tag) (target : Target) (name : String) (kind : ValueKind) : CompileError :=
  if tag.operator = .join then .notAFilter target.table name
  else .unsupportedValue name tag.operator kind

/-- A field fails under a tag that was read exactly if the operator cannot take its value. -/
theorem emit_eq_error_iff {text : String} {tag : Tag} (hparse : Tag.parse text = .ok (some tag))
    (d : Dialect) (target : Target) (name : String) (value : FieldValue) (e : CompileError) :
    emit d tag target name value = .error e ↔
      ¬ tag.operator.Takes value.kind ∧ e = refusal tag target name value.kind := by
  by_cases horder : tag.operator = .order
  · have htakes : tag.operator.Takes value.kind := by rw [horder]; trivial
    have hok : ∃ emission, emit d tag target name value = .ok emission := by
      unfold emit
      rw [horder]
      simp only
      split <;> exact ⟨_, rfl⟩
    obtain ⟨emission, hemission⟩ := hok
    rw [hemission]
    constructor
    · intro h
      cases h
    · intro h
      exact absurd htakes h.1
  · by_cases hjoin : tag.operator = .join
    · obtain ⟨join, htarget⟩ := (Tag.operator_eq_join_iff_of_parse hparse).mp hjoin
      unfold emit refusal
      rw [hjoin, htarget]
      cases value <;> simp [Operator.Takes, FieldValue.kind, eq_comm]
    · have hnone := predicate?_eq_none_iff d target horder hjoin value
      rw [refusal, if_neg hjoin, ← hnone, emit_of_predicate horder hjoin]
      cases predicate? d target tag.operator value <;> simp [eq_comm]

/-! ## Offending fields -/

/-- The walk goes into the filter that the visited field holds: the field has no tag, or it is a
join that is not zero. -/
structure Visit.Enters (v : Visit) : Prop where
  nested : v.field.value.kind = .nested
  entered : v.field.tag = none ∨
    ∃ tag, v.field.HasTag tag ∧ v.field.isZero = false ∧ tag.operator = .join

/-- The visited field is offending, for the reason that the error says. -/
inductive Visit.Offends (maxDepth : Nat) (v : Visit) : CompileError → Prop
  /-- It has no tag, and it holds a value or a list of them. -/
  | untagged (htag : v.field.tag = none)
      (hkind : v.field.value.kind = .scalar ∨ v.field.value.kind = .list) :
      Offends maxDepth v (.notAFilter v.place.table v.field.name)
  /-- Its tag cannot be read, be the field zero or not. -/
  | unreadable {text : String} {cause : TagError} (htag : v.field.tag = some text)
      (hparse : Tag.parse text = .error cause) : Offends maxDepth v (.tag v.field.name cause)
  /-- Its operator cannot take what it holds. -/
  | unsupported {tag : Tag} (htag : v.field.HasTag tag) (hzero : v.field.isZero = false)
      (hop : tag.operator ≠ .join) (htakes : ¬ tag.operator.Takes v.field.value.kind) :
      Offends maxDepth v (.unsupportedValue v.field.name tag.operator v.field.value.kind)
  /-- It is a join and holds no filter. -/
  | unjoined {tag : Tag} (htag : v.field.HasTag tag) (hzero : v.field.isZero = false)
      (hop : tag.operator = .join) (hkind : v.field.value.kind ≠ .nested) :
      Offends maxDepth v (.notAFilter (tag.table.getD v.place.table) v.field.name)
  /-- The filter in it lies deeper than allowed. -/
  | tooDeep (henters : v.Enters) (hdepth : maxDepth < v.place.depth + 1) :
      Offends maxDepth v (.tooDeep maxDepth)

/-- Which errors a field without a tag is reported with. -/
theorem Visit.offends_iff_of_untagged {v : Visit} (htag : v.field.tag = none) (maxDepth : Nat)
    (e : CompileError) :
    v.Offends maxDepth e ↔
      ((v.field.value.kind = .scalar ∨ v.field.value.kind = .list) ∧
          e = .notAFilter v.place.table v.field.name) ∨
        (v.field.value.kind = .nested ∧ maxDepth < v.place.depth + 1 ∧ e = .tooDeep maxDepth) := by
  have huntagged : ∀ tag, ¬ v.field.HasTag tag := by
    rintro tag ⟨text, htext, -⟩
    rw [htag] at htext
    cases htext
  constructor
  · intro h
    cases h with
    | untagged htag hkind => exact .inl ⟨hkind, rfl⟩
    | unreadable htext hparse =>
        rw [htag] at htext
        cases htext
    | unsupported hread hzero hop htakes => exact absurd hread (huntagged _)
    | unjoined hread hzero hop hkind => exact absurd hread (huntagged _)
    | tooDeep henters hdepth => exact .inr ⟨henters.nested, hdepth, rfl⟩
  · rintro (⟨hkind, rfl⟩ | ⟨hkind, hdepth, rfl⟩)
    · exact .untagged htag hkind
    · exact .tooDeep ⟨hkind, .inl htag⟩ hdepth

/-- Which error a field is reported with whose tag cannot be read. -/
theorem Visit.offends_iff_of_unreadable {v : Visit} {text : String} {cause : TagError}
    (htext : v.field.tag = some text) (hparse : Tag.parse text = .error cause) (maxDepth : Nat)
    (e : CompileError) : v.Offends maxDepth e ↔ e = .tag v.field.name cause := by
  have hread : ∀ tag, ¬ v.field.HasTag tag := by
    intro tag htag
    have hok := htag.parse_eq htext
    rw [hparse] at hok
    cases hok
  have htagged : v.field.tag ≠ none := by simp [htext]
  constructor
  · intro h
    cases h with
    | untagged htag hkind => exact absurd htag htagged
    | unreadable htext' hparse' =>
        rw [htext] at htext'
        cases htext'
        rw [hparse] at hparse'
        cases hparse'
        rfl
    | unsupported htag hzero hop htakes => exact absurd htag (hread _)
    | unjoined htag hzero hop hkind => exact absurd htag (hread _)
    | tooDeep henters hdepth =>
        rcases henters.entered with htag | ⟨tag, htag, -, -⟩
        · exact absurd htag htagged
        · exact absurd htag (hread _)
  · rintro rfl
    exact .unreadable htext hparse

/-- A field that its tag skips, or that is zero under a tag that can be read, is not offending. -/
theorem Visit.not_offends_of_passed {v : Visit} {text : String} {parsed : Option Tag}
    (htext : v.field.tag = some text) (hparse : Tag.parse text = .ok parsed)
    (hpassed : parsed = none ∨ v.field.isZero = true) (maxDepth : Nat) (e : CompileError) :
    ¬ v.Offends maxDepth e := by
  have htagged : v.field.tag ≠ none := by simp [htext]
  have hread : ∀ tag, v.field.HasTag tag → v.field.isZero = false → False := by
    intro tag htag hzero
    have hok := htag.parse_eq htext
    rw [hparse] at hok
    rcases hpassed with rfl | hpassed
    · cases hok
    · rw [hpassed] at hzero
      cases hzero
  intro h
  cases h with
  | untagged htag hkind => exact htagged htag
  | unreadable htext' hparse' =>
      rw [htext] at htext'
      cases htext'
      rw [hparse] at hparse'
      cases hparse'
  | unsupported htag hzero hop htakes => exact hread _ htag hzero
  | unjoined htag hzero hop hkind => exact hread _ htag hzero
  | tooDeep henters hdepth =>
      rcases henters.entered with htag | ⟨tag, htag, hzero, -⟩
      · exact htagged htag
      · exact hread _ htag hzero

/-- Which errors a field is reported with that is not zero and whose tag was read. -/
theorem Visit.offends_iff_of_tag {v : Visit} {tag : Tag} (htag : v.field.HasTag tag)
    (hzero : v.field.isZero = false) (maxDepth : Nat) (e : CompileError) :
    v.Offends maxDepth e ↔
      (¬ tag.operator.Takes v.field.value.kind ∧
          e = refusal tag (Compiler.target tag v.place.table v.field.name) v.field.name
            v.field.value.kind) ∨
        (tag.operator = .join ∧ v.field.value.kind = .nested ∧ maxDepth < v.place.depth + 1 ∧
          e = .tooDeep maxDepth) := by
  have hsame : ∀ other, v.field.HasTag other → other = tag := by
    intro other hother
    have hread := Field.readTag_eq_some_iff.mpr hother
    rw [Field.readTag_eq_some_iff.mpr htag] at hread
    exact (Option.some.inj hread).symm
  have htagged : v.field.tag ≠ none := by
    obtain ⟨text, htext, -⟩ := htag
    simp [htext]
  constructor
  · intro h
    cases h with
    | untagged hnone hkind => exact absurd hnone htagged
    | unreadable htext hparse =>
        have hok := htag.parse_eq htext
        rw [hparse] at hok
        cases hok
    | unsupported hother hzero hop htakes =>
        cases hsame _ hother
        exact .inl ⟨htakes, by rw [refusal, if_neg hop]⟩
    | unjoined hother hzero hop hkind =>
        cases hsame _ hother
        refine .inl ⟨?_, by rw [refusal, if_pos hop]; rfl⟩
        rw [hop]
        exact hkind
    | tooDeep henters hdepth =>
        rcases henters.entered with hnone | ⟨other, hother, -, hop⟩
        · exact absurd hnone htagged
        · cases hsame _ hother
          exact .inr ⟨hop, henters.nested, hdepth, rfl⟩
  · rintro (⟨htakes, rfl⟩ | ⟨hop, hkind, hdepth, rfl⟩)
    · unfold refusal
      split
      · rename_i hop
        rw [hop] at htakes
        exact .unjoined htag hzero hop htakes
      · rename_i hop
        exact .unsupported htag hzero hop htakes
    · exact .tooDeep ⟨hkind, .inr ⟨tag, htag, hzero, hop⟩⟩ hdepth

namespace Compiler

/-! ## A visited field fails exactly if it is offending -/

theorem error_enter_iff (c : Compiler) (depth : Nat) (e : CompileError) :
    (c.enter depth).error = some e ↔ c.maxDepth < depth ∧ e = .tooDeep c.maxDepth := by
  unfold enter
  split
  · rename_i h
    simp [Trace.fail, h, eq_comm]
  · rename_i h
    simp [Trace.done, h]

theorem error_opening (on : String) (t : Trace) : (Trace.opening on t).error = t.error := rfl

/-- A field fails under a tag if its operator cannot take its value, or if it is a join and the
filter in it lies too deep. -/
theorem error_ofEmission_iff {text : String} {tag : Tag} (hparse : Tag.parse text = .ok (some tag))
    (c : Compiler) (p : Place) (name : String) (value : FieldValue) (e : CompileError) :
    (Trace.ofEmission tag.group (fun on joined => c.enter (p.joined on joined).depth)
        (emit c.dialect tag (target tag p.table name) name value)).error = some e ↔
      (¬ tag.operator.Takes value.kind ∧
          e = refusal tag (target tag p.table name) name value.kind) ∨
        (tag.operator = .join ∧ value.kind = .nested ∧ c.maxDepth < p.depth + 1 ∧
          e = .tooDeep c.maxDepth) := by
  have hfail := emit_eq_error_iff hparse c.dialect (target tag p.table name) name value
  cases hemit : emit c.dialect tag (target tag p.table name) name value with
  | error e' =>
      rw [hemit] at hfail
      obtain ⟨htakes, hrefusal⟩ := (hfail e').mp rfl
      constructor
      · intro h
        cases h
        exact .inl ⟨htakes, hrefusal⟩
      · rintro (⟨-, rfl⟩ | ⟨hop, hkind, -, -⟩)
        · rw [← hrefusal]
          rfl
        · rw [hop] at htakes
          exact absurd hkind htakes
  | ok emission =>
      have htakes : ¬ ¬ tag.operator.Takes value.kind := by
        intro hnot
        have herror := (hfail _).mpr ⟨hnot, rfl⟩
        rw [hemit] at herror
        cases herror
      have hjoin : (∃ on joined, emission = .join on joined) ↔
          tag.operator = .join ∧ value.kind = .nested := by
        constructor
        · rintro ⟨on, joined, rfl⟩
          obtain ⟨join, htarget, hkind, -, -⟩ := emit_eq_join hemit
          exact ⟨(Tag.operator_eq_join_iff_of_parse hparse).mpr ⟨join, htarget⟩, hkind⟩
        · rintro ⟨hop, -⟩
          exact emit_of_operator_eq_join hop hemit
      cases emission with
      | join on joined =>
          show (Trace.opening on (c.enter (p.depth + 1))).error = some e ↔ _
          rw [error_opening, error_enter_iff]
          obtain ⟨hop, hkind⟩ := hjoin.mp ⟨on, joined, rfl⟩
          constructor
          · rintro ⟨hdepth, rfl⟩
            exact .inr ⟨hop, hkind, hdepth, rfl⟩
          · rintro (⟨hnot, -⟩ | ⟨-, -, hdepth, rfl⟩)
            · exact absurd hnot htakes
            · exact ⟨hdepth, rfl⟩
      | _ =>
          have hother : ¬ (tag.operator = .join ∧ value.kind = .nested) := by
            rw [← hjoin]
            simp
          constructor
          · intro h
            cases h
          · rintro (⟨hnot, -⟩ | ⟨hop, hkind, -, -⟩)
            · exact absurd hnot htakes
            · exact absurd ⟨hop, hkind⟩ hother

/-- A visited field fails by itself exactly if it is offending. -/
theorem error_contribution_iff (c : Compiler) (v : Visit) (e : CompileError) :
    (c.contribution v.place v.field).error = some e ↔ v.Offends c.maxDepth e := by
  rcases v with ⟨p, name, _ | text, isZero, value⟩
  · rw [Visit.offends_iff_of_untagged rfl]
    cases value with
    | nested inner =>
        show (c.enter (p.depth + 1)).error = some e ↔ _
        rw [error_enter_iff]
        simp [FieldValue.kind]
    | _ => simp [contribution, Trace.done, Trace.fail, FieldValue.kind, eq_comm]
  · cases hparse : Tag.parse text with
    | error cause =>
        rw [Visit.offends_iff_of_unreadable rfl hparse]
        simp [contribution, hparse, Trace.fail, eq_comm]
    | ok parsed =>
        cases parsed with
        | none =>
            have hsound := Visit.not_offends_of_passed (v := ⟨p, name, some text, isZero, value⟩)
              rfl hparse (.inl rfl) c.maxDepth e
            simp [contribution, hparse, Trace.done, hsound]
        | some tag =>
            cases isZero with
            | true =>
                have hsound := Visit.not_offends_of_passed (v := ⟨p, name, some text, true, value⟩)
                  rfl hparse (.inr rfl) c.maxDepth e
                simp [contribution, hparse, Trace.done, hsound]
            | false =>
                have hcontribution : c.contribution p ⟨name, some text, false, value⟩ =
                    .ofEmission tag.group (fun on joined => c.enter (p.joined on joined).depth)
                      (emit c.dialect tag (target tag p.table name) name value) := by
                  simp [contribution, hparse]
                rw [Visit.offends_iff_of_tag ⟨text, rfl, hparse⟩ rfl, hcontribution]
                exact error_ofEmission_iff hparse c p name value e

/-! ## The whole walk -/

theorem error_trace_iff (c : Compiler) (v : Visit) (e : CompileError) :
    (v.trace c).error = some e ↔ v.Offends c.maxDepth e := by
  rw [Visit.trace, Trace.error_below, error_contribution_iff]

theorem error_trace_eq_none {c : Compiler} {v : Visit} (h : ∀ e, ¬ v.Offends c.maxDepth e) :
    (v.trace c).error = none := by
  rw [Option.eq_none_iff_forall_ne_some]
  intro e he
  exact h e ((error_trace_iff c v e).mp he)

end Compiler

theorem Visit.offends_surface_iff (maxDepth : Nat) (v : Visit) (e : CompileError) :
    v.surface.Offends maxDepth e ↔ v.Offends maxDepth e := by
  rw [← Compiler.error_trace_iff ⟨.mysql, maxDepth⟩, v.trace_surface, Compiler.error_trace_iff]

/-- Of the visited fields, this is the first one that is offending, and the error says why. -/
structure Visit.FirstOffence (maxDepth : Nat) (visits before : List Visit) (v : Visit)
    (e : CompileError) : Prop where
  visited : before ++ [v] <+: visits
  sound : ∀ u ∈ before, ∀ e, ¬ u.Offends maxDepth e
  offends : v.Offends maxDepth e

/-- Either none of the fields is offending, or one is the first. -/
theorem Visit.sound_or_firstOffence (maxDepth : Nat) (visits : List Visit) :
    (∀ v ∈ visits, ∀ e, ¬ v.Offends maxDepth e) ∨
      ∃ before v e, Visit.FirstOffence maxDepth visits before v e := by
  induction visits with
  | nil => exact .inl fun v hv => by cases hv
  | cons first rest ih =>
      by_cases hfirst : ∃ e, first.Offends maxDepth e
      · obtain ⟨e, he⟩ := hfirst
        have hnone : ∀ u ∈ ([] : List Visit), ∀ e, ¬ u.Offends maxDepth e := by
          intro u hu
          cases hu
        exact .inr ⟨[], first, e, ⟨rest, rfl⟩, hnone, he⟩
      · have hsound : ∀ e, ¬ first.Offends maxDepth e := fun e he => hfirst ⟨e, he⟩
        rcases ih with hrest | ⟨before, v, e, ⟨after, rfl⟩, hbefore, he⟩
        · refine .inl fun v hv => ?_
          rcases List.mem_cons.mp hv with rfl | hv
          · exact hsound
          · exact hrest v hv
        · refine .inr ⟨first :: before, v, e, ⟨after, rfl⟩, fun u hu => ?_, he⟩
          rcases List.mem_cons.mp hu with rfl | hu
          · exact hsound
          · exact hbefore u hu

namespace Compiler

/-- A walk without offending fields makes the registrations of all that it visits. -/
theorem trace_of_sound (c : Compiler) (f : Filter) (parent : String)
    (h : ∀ v ∈ f.visits c.dialect (.root parent), ∀ e, ¬ v.Offends c.maxDepth e) :
    c.trace 0 parent f =
      ⟨(f.visits c.dialect (.root parent)).filterMap (Visit.registration? c.dialect), none⟩ := by
  rw [trace_root, Trace.inOrder_eq_of_forall, Visit.flatMap_steps]
  intro t ht
  obtain ⟨v, hv, rfl⟩ := List.mem_map.mp ht
  exact error_trace_eq_none (h v hv)

/-- A walk stops at the first offending field, after the registrations of the fields up to it.  Of
the fields only their surface counts, and of those behind the offending one not even that. -/
theorem trace_of_firstOffence {c : Compiler} {f g : Filter} {parent : String} {before : List Visit}
    {v : Visit} {e : CompileError}
    (h : Visit.FirstOffence c.maxDepth (f.visits c.dialect (.root parent)) before v e)
    (hsame : (before ++ [v]).map Visit.surface <+:
      (g.visits c.dialect (.root parent)).map Visit.surface) :
    c.trace 0 parent g =
      ⟨(before ++ [v]).filterMap (Visit.registration? c.dialect), some e⟩ := by
  obtain ⟨after, hafter⟩ := hsame
  have hvisits := congrArg (List.map (Visit.trace c)) hafter
  rw [List.map_append, Visit.map_trace_surface, Visit.map_trace_surface, List.map_append,
    List.map_singleton, List.append_assoc, List.singleton_append] at hvisits
  have hbefore : ∀ t ∈ before.map (Visit.trace c), t.error = none := by
    intro t ht
    obtain ⟨u, hu, rfl⟩ := List.mem_map.mp ht
    exact error_trace_eq_none (h.sound u hu)
  have hv : (v.trace c).error = some e := (error_trace_iff c v e).mpr h.offends
  rw [trace_root, ← hvisits, Trace.inOrder_eq_of_fails hbefore hv, ← Visit.flatMap_steps,
    List.map_append, List.map_singleton]

/-- A filter compiles exactly if none of its visited fields is offending, into what they
register. -/
theorem compile_eq_ok_iff_sound (c : Compiler) (f : Filter) (condition : Condition) :
    c.compile f = .ok condition ↔
      (∀ v ∈ f.visits c.dialect (.root f.table), ∀ e, ¬ v.Offends c.maxDepth e) ∧
        condition = Condition.empty.registerAll
          ((f.visits c.dialect (.root f.table)).filterMap (Visit.registration? c.dialect)) := by
  rw [compile_eq_ok_iff]
  rcases Visit.sound_or_firstOffence c.maxDepth (f.visits c.dialect (.root f.table)) with
    hsound | ⟨before, v, e, hfirst⟩
  · rw [trace_of_sound c f f.table hsound]
    exact ⟨fun h => ⟨hsound, h.2⟩, fun h => ⟨rfl, h.2⟩⟩
  · rw [trace_of_firstOffence hfirst (hfirst.visited.map _)]
    constructor
    · rintro ⟨herror, -⟩
      cases herror
    · rintro ⟨hsound, -⟩
      have hv : v ∈ f.visits c.dialect (.root f.table) :=
        hfirst.visited.subset (List.mem_append_right _ List.mem_cons_self)
      exact absurd hfirst.offends (hsound v hv e)

/-- A filter with an offending field fails with the error of the first one. -/
theorem compile_of_firstOffence {c : Compiler} {f : Filter} {before : List Visit} {v : Visit}
    {e : CompileError}
    (h : Visit.FirstOffence c.maxDepth (f.visits c.dialect (.root f.table)) before v e) :
    c.compile f = .error e := by
  rw [compile_eq_error_iff, trace_of_firstOffence h (h.visited.map _)]

/-- **A walk stops at the first offending field, and only there.**  A filter compiles exactly if
none of its visited fields is offending, and else the error is that of the first one.  Resolving
into any condition then leaves there what the fields up to the offending one register.  So a
filter whose visited fields begin with the same ones has the same outcome, whatever comes after
and whatever else is inside them. -/
theorem stops_at_first_offence (c : Compiler) (f : Filter) :
    ((∃ condition, c.compile f = .ok condition) ↔
      ∀ v ∈ f.visits c.dialect (.root f.table), ∀ e, ¬ v.Offends c.maxDepth e) ∧
    (∀ e, c.compile f = .error e ↔ ∃ before v,
      Visit.FirstOffence c.maxDepth (f.visits c.dialect (.root f.table)) before v e) ∧
    ∀ (parent : String) (before : List Visit) (v : Visit) (e : CompileError),
      Visit.FirstOffence c.maxDepth (f.visits c.dialect (.root parent)) before v e →
        ∀ collector : Condition,
          c.resolve f collector parent = .fail e (collector.registerAll
            ((before ++ [v]).filterMap (Visit.registration? c.dialect))) ∧
          ∀ g : Filter, (before ++ [v]).map Visit.surface <+:
              (g.visits c.dialect (.root parent)).map Visit.surface →
            c.resolve g collector parent = c.resolve f collector parent := by
  have hfails : ∀ parent before v e,
      Visit.FirstOffence c.maxDepth (f.visits c.dialect (.root parent)) before v e →
        c.trace 0 parent f =
          ⟨(before ++ [v]).filterMap (Visit.registration? c.dialect), some e⟩ :=
    fun parent before v e h => trace_of_firstOffence h (h.visited.map _)
  refine ⟨?_, ?_, ?_⟩
  · simp only [compile_eq_ok_iff]
    constructor
    · rintro ⟨condition, herror, -⟩
      rcases Visit.sound_or_firstOffence c.maxDepth (f.visits c.dialect (.root f.table)) with
        hsound | ⟨before, v, e, hfirst⟩
      · exact hsound
      · rw [hfails f.table before v e hfirst] at herror
        cases herror
    · intro hsound
      rw [trace_of_sound c f f.table hsound]
      exact ⟨_, rfl, rfl⟩
  · intro e
    rw [compile_eq_error_iff]
    constructor
    · intro herror
      rcases Visit.sound_or_firstOffence c.maxDepth (f.visits c.dialect (.root f.table)) with
        hsound | ⟨before, v, e', hfirst⟩
      · rw [trace_of_sound c f f.table hsound] at herror
        cases herror
      · rw [hfails f.table before v e' hfirst] at herror
        cases herror
        exact ⟨before, v, hfirst⟩
    · rintro ⟨before, v, hfirst⟩
      rw [hfails f.table before v e hfirst]
  · intro parent before v e hfirst collector
    rw [resolve_eq_run, hfails parent before v e hfirst]
    refine ⟨rfl, ?_⟩
    intro g hsame
    rw [resolve_eq_run, trace_of_firstOffence hfirst hsame]

/-- Orders by their state and by a total, which is to be compared with a list; more fields may
follow. -/
def ordersWithTotals (more : List Field) : Field :=
  ⟨"Orders", some "type:join;join:orders;on:user_id,id", false, .nested ⟨"orders",
    ⟨"Status", some "type:eq", false, .scalar (.text "new")⟩ ::
      ⟨"Total", some "type:gte", false, .list [.int 1, .int 2]⟩ :: more⟩⟩

/-- Users with their orders; more fields may follow there and after the orders. -/
def usersWithTotals (inside after : List Field) : Filter :=
  ⟨"users", ordersWithTotals inside :: after⟩

/-- A field whose tag names no operator. -/
def ageBetween : Field := ⟨"Age", some "type:between", false, .scalar (.int 18)⟩

/-- Inside the join of the orders. -/
def amongOrders : Place := ⟨["LEFT JOIN orders ON orders.user_id = users.id"], 1, "orders"⟩

/-- What is visited before the total. -/
def beforeTotal (inside : List Field) : List Visit :=
  [⟨.root "users", ordersWithTotals inside⟩,
    ⟨amongOrders, ⟨"Status", some "type:eq", false, .scalar (.text "new")⟩⟩]

/-- The total. -/
def orderTotal : Visit :=
  ⟨amongOrders, ⟨"Total", some "type:gte", false, .list [.int 1, .int 2]⟩⟩

theorem visits_usersWithTotals (inside after : List Field) :
    (usersWithTotals inside after).visits .postgres (.root "users") =
      beforeTotal inside ++ [orderTotal] ++ (Field.visitsAll .postgres amongOrders inside ++
        Field.visitsAll .postgres (.root "users") after) := by
  have hjoin : Tag.parse "type:join;join:orders;on:user_id,id" =
      .ok (some ⟨.join, none, none, some ⟨"orders", "user_id", "id"⟩, .and⟩) := by decide +kernel
  have heq : Tag.parse "type:eq" = .ok (some ⟨.compare .eq, none, none, none, .and⟩) := by
    decide +kernel
  have hgte : Tag.parse "type:gte" = .ok (some ⟨.compare .gte, none, none, none, .and⟩) := by
    decide +kernel
  simp [usersWithTotals, ordersWithTotals, beforeTotal, orderTotal, Filter.visits, Field.visitsAll,
    Field.visits, FieldValue.visits, hjoin, heq, hgte, Place.inTable, Place.root, Place.joined,
    amongOrders, Dialect.joinClause, Dialect.quote, Dialect.qualify, target]

theorem stops_at_first_offence_usersWithTotals :
    Visit.FirstOffence defaultMaxDepth
        ((usersWithTotals [ageBetween] [ageBetween]).visits .postgres (.root "users"))
        (beforeTotal [ageBetween]) orderTotal (.unsupportedValue "Total" (.compare .gte) .list) ∧
      (⟨.postgres, defaultMaxDepth⟩ : Compiler).resolve (usersWithTotals [] []) .empty "users" =
        (⟨.postgres, defaultMaxDepth⟩ : Compiler).resolve
          (usersWithTotals [ageBetween] [ageBetween]) .empty "users" := by
  have hsound : ∀ u ∈ beforeTotal [ageBetween], ∀ e, ¬ Visit.Offends defaultMaxDepth u e := by
    intro u hu e he
    have herror := (error_contribution_iff ⟨.postgres, defaultMaxDepth⟩ u e).mpr he
    simp only [beforeTotal, List.mem_cons, List.not_mem_nil, or_false] at hu
    have hnone : (contribution ⟨.postgres, defaultMaxDepth⟩ u.place u.field).error = none := by
      rcases hu with rfl | rfl <;> decide +kernel
    rw [hnone] at herror
    cases herror
  have htag : orderTotal.field.HasTag ⟨.compare .gte, none, none, none, .and⟩ :=
    ⟨"type:gte", rfl, by decide +kernel⟩
  have hoffends : Visit.Offends defaultMaxDepth orderTotal
      (.unsupportedValue "Total" (.compare .gte) .list) := by
    refine .unsupported htag rfl (by decide) ?_
    intro htakes
    cases htakes
  have hfirst : Visit.FirstOffence defaultMaxDepth
      ((usersWithTotals [ageBetween] [ageBetween]).visits .postgres (.root "users"))
      (beforeTotal [ageBetween]) orderTotal (.unsupportedValue "Total" (.compare .gte) .list) := by
    rw [visits_usersWithTotals]
    exact ⟨List.prefix_append _ _, hsound, hoffends⟩
  refine ⟨hfirst, ?_⟩
  have hstops := stops_at_first_offence ⟨.postgres, defaultMaxDepth⟩
    (usersWithTotals [ageBetween] [ageBetween])
  refine (hstops.2.2 "users" _ _ _ hfirst .empty).2 (usersWithTotals [] []) ?_
  rw [visits_usersWithTotals]
  exact (List.prefix_append _ _).map Visit.surface

end Compiler

end SqlFilter
