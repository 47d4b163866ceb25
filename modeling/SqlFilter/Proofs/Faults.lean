import SqlFilter.Definition
import SqlFilter.Proofs.Text.Parts
import Mathlib.Data.List.Lex
import Mathlib.Order.Defs.LinearOrder

/-!
# The first fault of a definition

A field of a definition is faulty by itself if its name is blank, or if it has a value and a filter
at once.  Fields are nested in fields, and each has an address: which field it is of the outermost
list, which of the list inside that one, and so on down.  In the order of addresses a field comes
before those inside it, and those before its later siblings.

The fault that is found in a definition is that of the faulty field with the least address, and
none is found only if no field at any depth is faulty.  The search reads a list from some position
on, so the induction says the same of the addresses that start there or later.

## Main results

* `FieldDefinition.At`: the field at an address.  `FieldDefinition.Breaks`: what is wrong with a
  field by itself.
* `FieldDefinition.FirstFault`: the fault of the least address that has one.
* `FieldDefinition.searched_fault?`: the search of a list from a position on.
* `Definition.finds_first_fault`.
-/

namespace SqlFilter

namespace FieldDefinition

/-! ## Fields and their addresses -/

/-- The field at an address below a list of fields: the position in the list, and then the address
inside the filter of that field. -/
inductive At : List FieldDefinition → List Nat → FieldDefinition → Prop
  | here {fields : List FieldDefinition} {i : Nat} {field : FieldDefinition}
      (hfield : fields[i]? = some field) : At fields [i] field
  | inside {fields : List FieldDefinition} {i : Nat} {field found : FieldDefinition}
      {inner : Definition} {address : List Nat} (hfield : fields[i]? = some field)
      (hfilter : field.filter = some inner) (hfound : At inner.fields address found) :
      At fields (i :: address) found

theorem At.ne_nil {fields : List FieldDefinition} {address : List Nat} {found : FieldDefinition}
    (h : At fields address found) : address ≠ [] := by
  cases h with
  | here => exact List.cons_ne_nil _ _
  | inside => exact List.cons_ne_nil _ _

/-- An address that starts at a field is that of the field, or of one inside it. -/
theorem At.eq_or_inside {fields : List FieldDefinition} {i : Nat} {address : List Nat}
    {field found : FieldDefinition} (hfield : fields[i]? = some field)
    (h : At fields (i :: address) found) :
    address = [] ∧ found = field ∨
      ∃ inner, field.filter = some inner ∧ At inner.fields address found := by
  cases h with
  | here hfound =>
      rw [hfield] at hfound
      cases hfound
      exact .inl ⟨rfl, rfl⟩
  | inside hfield' hfilter hfound =>
      rw [hfield] at hfield'
      cases hfield'
      exact .inr ⟨_, hfilter, hfound⟩

/-- There is one field at an address. -/
theorem At.unique {fields : List FieldDefinition} {address : List Nat}
    {found found' : FieldDefinition} (h : At fields address found)
    (h' : At fields address found') : found = found' := by
  induction h with
  | here hfield =>
      rcases h'.eq_or_inside hfield with ⟨-, rfl⟩ | ⟨inner, -, hnone⟩
      · rfl
      · exact absurd rfl hnone.ne_nil
  | inside hfield hfilter hfound ih =>
      rcases h'.eq_or_inside hfield with ⟨rfl, -⟩ | ⟨inner, hfilter', hfound'⟩
      · exact absurd rfl hfound.ne_nil
      · rw [hfilter] at hfilter'
        cases hfilter'
        exact ih hfound'

/-! ## Faulty fields -/

/-- What is wrong with the field at a position, apart from what is inside it. A blank name is
reported first, by the position; a value beside a filter by the name, as it is written. -/
inductive Breaks (position : Nat) (field : FieldDefinition) : DefinitionError → Prop
  | blankName (hname : Text.trim field.name = "") : Breaks position field (.emptyName position)
  | valueAndFilter (hname : Text.trim field.name ≠ "") (hvalue : field.value ≠ none)
      (hfilter : field.filter ≠ none) : Breaks position field (.valueAndFilter field.name)

/-- Nothing is wrong with the field, apart from what is inside it. -/
structure Sound (field : FieldDefinition) : Prop where
  named : Text.trim field.name ≠ ""
  single : ¬ (field.value ≠ none ∧ field.filter ≠ none)

theorem Breaks.not_sound {position : Nat} {field : FieldDefinition} {e : DefinitionError}
    (h : field.Breaks position e) : ¬ field.Sound := by
  intro hsound
  cases h with
  | blankName hname => exact hsound.named hname
  | valueAndFilter hname hvalue hfilter => exact hsound.single ⟨hvalue, hfilter⟩

theorem Breaks.unique {position : Nat} {field : FieldDefinition} {e e' : DefinitionError}
    (h : field.Breaks position e) (h' : field.Breaks position e') : e = e' := by
  cases h with
  | blankName hname =>
      cases h' with
      | blankName hname' => rfl
      | valueAndFilter hname' hvalue hfilter => exact absurd hname hname'
  | valueAndFilter hname hvalue hfilter =>
      cases h' with
      | blankName hname' => exact absurd hname' hname
      | valueAndFilter hname' hvalue' hfilter' => rfl

/-! ## The least address with a fault -/

/-- Every field with an address from a position on is sound. -/
def SoundFrom (k : Nat) (fields : List FieldDefinition) : Prop :=
  ∀ i rest found, k ≤ i → At fields (i :: rest) found → found.Sound

/-- The error is that of the faulty field with the least address from a position on. -/
def FirstFaultFrom (k : Nat) (fields : List FieldDefinition) (e : DefinitionError) : Prop :=
  ∃ path position field, At fields (path ++ [position]) field ∧ field.Breaks position e ∧
    ∀ i rest found, k ≤ i → At fields (i :: rest) found → i :: rest < path ++ [position] →
      found.Sound

theorem SoundFrom.sound {fields : List FieldDefinition} {address : List Nat}
    {found : FieldDefinition} (h : SoundFrom 0 fields) (hfound : At fields address found) :
    found.Sound := by
  cases address with
  | nil => exact absurd rfl hfound.ne_nil
  | cons i rest => exact h i rest found (Nat.zero_le i) hfound

/-- The error is that of the faulty field with the least address. -/
def FirstFault (fields : List FieldDefinition) (e : DefinitionError) : Prop :=
  ∃ path position field, At fields (path ++ [position]) field ∧ field.Breaks position e ∧
    ∀ address found, At fields address found → address < path ++ [position] → found.Sound

theorem FirstFaultFrom.firstFault {fields : List FieldDefinition} {e : DefinitionError}
    (h : FirstFaultFrom 0 fields e) : FirstFault fields e := by
  obtain ⟨path, position, field, hat, hbreaks, hleast⟩ := h
  refine ⟨path, position, field, hat, hbreaks, ?_⟩
  intro address found hfound hlt
  cases address with
  | nil => exact absurd rfl hfound.ne_nil
  | cons i rest => exact hleast i rest found (Nat.zero_le i) hfound hlt

section Step

variable {k : Nat} {fields : List FieldDefinition} {field : FieldDefinition}
  (hfield : fields[k]? = some field)
include hfield

/-- What is at a position or below it is sound, if the field there is, and all that is inside
it. -/
theorem At.sound {rest : List Nat} {found : FieldDefinition} (h : At fields (k :: rest) found)
    (hsound : field.Sound)
    (hinside : ∀ inner, field.filter = some inner → SoundFrom 0 inner.fields) : found.Sound := by
  rcases h.eq_or_inside hfield with ⟨-, rfl⟩ | ⟨inner, hfilter, hfound⟩
  · exact hsound
  · exact (hinside inner hfilter).sound hfound

/-- One field more is sound, with all that is inside it. -/
theorem SoundFrom.cons (hsound : field.Sound)
    (hinside : ∀ inner, field.filter = some inner → SoundFrom 0 inner.fields)
    (hbehind : SoundFrom (k + 1) fields) : SoundFrom k fields := by
  intro i rest found hk hfound
  rcases Nat.lt_or_eq_of_le hk with hk | rfl
  · exact hbehind i rest found hk hfound
  · exact hfound.sound hfield hsound hinside

/-- The field at the position is faulty itself. -/
theorem FirstFaultFrom.of_breaks {e : DefinitionError} (hbreaks : field.Breaks k e) :
    FirstFaultFrom k fields e := by
  refine ⟨[], k, field, .here hfield, hbreaks, ?_⟩
  intro i rest found hk hfound hlt
  rcases List.cons_lt_cons_iff.mp hlt with hbefore | ⟨-, htail⟩
  · omega
  · exact absurd htail (List.not_lt_nil rest)

/-- The field at the position is sound, and the first fault is inside it. -/
theorem FirstFaultFrom.of_inside {e : DefinitionError} {inner : Definition}
    (hsound : field.Sound) (hfilter : field.filter = some inner)
    (hfirst : FirstFaultFrom 0 inner.fields e) : FirstFaultFrom k fields e := by
  obtain ⟨path, position, faulty, hat, hbreaks, hleast⟩ := hfirst.firstFault
  refine ⟨k :: path, position, faulty, .inside hfield hfilter hat, hbreaks, ?_⟩
  intro i rest found hk hfound hlt
  rw [List.cons_append] at hlt
  rcases List.cons_lt_cons_iff.mp hlt with hbefore | ⟨rfl, htail⟩
  · omega
  · rcases hfound.eq_or_inside hfield with ⟨-, rfl⟩ | ⟨inner', hfilter', hfound⟩
    · exact hsound
    · rw [hfilter] at hfilter'
      cases hfilter'
      exact hleast rest found hfound htail

/-- The field at the position is sound with all that is inside it, and the first fault is behind
it. -/
theorem FirstFaultFrom.of_behind {e : DefinitionError} (hsound : field.Sound)
    (hinside : ∀ inner, field.filter = some inner → SoundFrom 0 inner.fields)
    (hfirst : FirstFaultFrom (k + 1) fields e) : FirstFaultFrom k fields e := by
  obtain ⟨path, position, faulty, hat, hbreaks, hleast⟩ := hfirst
  refine ⟨path, position, faulty, hat, hbreaks, ?_⟩
  intro i rest found hk hfound hlt
  rcases Nat.lt_or_eq_of_le hk with hk | rfl
  · exact hleast i rest found hk hfound hlt
  · exact hfound.sound hfield hsound hinside

end Step

/-! ## The search -/

/-- What a search of a list from a position on comes to. -/
def Searched (k : Nat) (fields : List FieldDefinition) : Option DefinitionError → Prop
  | none => SoundFrom k fields
  | some e => FirstFaultFrom k fields e

/-- What a search of one field at a position comes to. -/
def SearchedAt (k : Nat) (field : FieldDefinition) : Option DefinitionError → Prop
  | none => field.Sound ∧ ∀ inner, field.filter = some inner → SoundFrom 0 inner.fields
  | some e => field.Breaks k e ∨
      field.Sound ∧ ∃ inner, field.filter = some inner ∧ FirstFaultFrom 0 inner.fields e

/-- The search of one field goes before that of the fields behind it. -/
theorem SearchedAt.searched {k : Nat} {fields : List FieldDefinition} {field : FieldDefinition}
    (hfield : fields[k]? = some field) {own behind : Option DefinitionError}
    (hown : SearchedAt k field own) (hbehind : Searched (k + 1) fields behind) :
    Searched k fields (own.or behind) := by
  cases own with
  | none =>
      obtain ⟨hsound, hinside⟩ := hown
      cases behind with
      | none => exact SoundFrom.cons hfield hsound hinside hbehind
      | some e => exact FirstFaultFrom.of_behind hfield hsound hinside hbehind
  | some e =>
      rcases hown with hbreaks | ⟨hsound, inner, hfilter, hfirst⟩
      · exact FirstFaultFrom.of_breaks hfield hbreaks
      · exact FirstFaultFrom.of_inside hfield hsound hfilter hfirst

theorem firstFault?_cons (k : Nat) (field : FieldDefinition) (rest : List FieldDefinition) :
    firstFault? k (field :: rest) = (field.fault? k).or (firstFault? (k + 1) rest) := by
  rw [firstFault?]
  cases field.fault? k <;> rfl

mutual
/-- **The search of a definition finds the first fault of its fields.** -/
theorem searched_fault? : ∀ d : Definition, Searched 0 d.fields d.fault?
  | ⟨_, fields⟩ => searched_firstFault? fields 0 fields rfl

theorem searched_firstFault? : ∀ (rest : List FieldDefinition) (k : Nat)
    (fields : List FieldDefinition), fields.drop k = rest →
      Searched k fields (firstFault? k rest)
  | [], k, fields, hdrop => by
      intro i rest found hk hfound
      have hlen : fields.length ≤ k := List.drop_eq_nil_iff.mp hdrop
      have hnone : fields[i]? = none := List.getElem?_eq_none (Nat.le_trans hlen hk)
      cases hfound with
      | here hfield =>
          rw [hnone] at hfield
          cases hfield
      | inside hfield =>
          rw [hnone] at hfield
          cases hfield
  | field :: rest, k, fields, hdrop => by
      have hfield : fields[k]? = some field := by
        rw [← List.head?_drop, hdrop, List.head?_cons]
      have hrest : fields.drop (k + 1) = rest := by
        rw [← List.tail_drop, hdrop, List.tail_cons]
      rw [firstFault?_cons]
      exact (searchedAt_fault? field k).searched hfield
        (searched_firstFault? rest (k + 1) fields hrest)

theorem searchedAt_fault? : ∀ (field : FieldDefinition) (k : Nat),
    SearchedAt k field (field.fault? k)
  | ⟨name, query, value, filter⟩, k => by
      have hfilter := searchedAt_filterFault? name query value filter k
      unfold fault?
      split
      · rename_i hblank
        exact .inl (.blankName (Text.isBlankText_iff.mp hblank))
      · rename_i hblank
        exact hfilter (mt Text.isBlankText_iff.mpr hblank)

theorem searchedAt_filterFault? (name : String) (query : Option String) (value : Option Written) :
    ∀ (filter : Option Definition) (k : Nat), Text.trim name ≠ "" →
      SearchedAt k ⟨name, query, value, filter⟩ (filterFault? name value filter)
  | none, k, hname => by
      refine ⟨⟨hname, fun h => h.2 rfl⟩, ?_⟩
      intro inner hinner
      cases hinner
  | some inner, k, hname => by
      have hinside := searched_fault? inner
      unfold filterFault?
      cases value with
      | some written =>
          exact .inl (.valueAndFilter hname (Option.some_ne_none _) (Option.some_ne_none _))
      | none =>
          have hsound : Sound ⟨name, query, none, some inner⟩ := ⟨hname, fun h => h.1 rfl⟩
          simp only [Option.isSome_none, Bool.false_eq_true, ↓reduceIte]
          cases hfault : inner.fault? with
          | none =>
              rw [hfault] at hinside
              refine ⟨hsound, ?_⟩
              intro inner' hinner'
              cases hinner'
              exact hinside
          | some e =>
              rw [hfault] at hinside
              exact .inr ⟨hsound, inner, rfl, hinside⟩
end

/-! ## The first fault -/

/-- Of two faulty fields with the least address, neither comes before the other. -/
theorem FirstFault.unique {fields : List FieldDefinition} {e e' : DefinitionError}
    (h : FirstFault fields e) (h' : FirstFault fields e') : e = e' := by
  obtain ⟨path, position, field, hat, hbreaks, hleast⟩ := h
  obtain ⟨path', position', field', hat', hbreaks', hleast'⟩ := h'
  rcases lt_trichotomy (path ++ [position]) (path' ++ [position']) with hlt | heq | hlt
  · exact absurd (hleast' _ _ hat hlt) hbreaks.not_sound
  · obtain ⟨rfl, hposition⟩ := List.append_inj' heq rfl
    cases hposition
    cases hat.unique hat'
    exact hbreaks.unique hbreaks'
  · exact absurd (hleast _ _ hat' hlt) hbreaks'.not_sound

end FieldDefinition

open FieldDefinition in
/-- **A definition is searched for faults without a gap and in order.**  No fault is found exactly
if every field at every depth has a name that is not blank, and not both a value and a filter.
Otherwise the fault that is found is that of the faulty field with the least address: a blank name
with the position in its own list, a value beside a filter with the name as it is written. -/
theorem Definition.finds_first_fault (d : Definition) :
    (d.fault? = none ↔ ∀ address field, At d.fields address field → field.Sound) ∧
      ∀ e, d.fault? = some e ↔ FirstFault d.fields e := by
  have hsearched := searched_fault? d
  cases hfault : d.fault? with
  | none =>
      rw [hfault] at hsearched
      have hsound : ∀ address field, At d.fields address field → field.Sound :=
        fun _ _ hat => SoundFrom.sound hsearched hat
      refine ⟨⟨fun _ => hsound, fun _ => rfl⟩, fun e => ⟨nofun, ?_⟩⟩
      rintro ⟨path, position, field, hat, hbreaks, -⟩
      exact absurd (hsound _ _ hat) hbreaks.not_sound
  | some found =>
      rw [hfault] at hsearched
      have hfirst : FirstFault d.fields found := FirstFaultFrom.firstFault hsearched
      refine ⟨⟨nofun, ?_⟩, fun e => ⟨?_, ?_⟩⟩
      · intro hsound
        obtain ⟨path, position, field, hat, hbreaks, -⟩ := hfirst
        exact absurd (hsound _ _ hat) hbreaks.not_sound
      · intro he
        cases he
        exact hfirst
      · intro hother
        rw [hfirst.unique hother]

/-- The fault inside the second field comes before that of the third. -/
example : Definition.fault? ⟨"", [⟨"ok", none, none, none⟩,
    ⟨"outer", none, none, some ⟨"", [⟨" ", none, some (.scalar (.int 1)), some .empty⟩]⟩⟩,
    ⟨"both", none, some (.scalar (.int 1)), some .empty⟩]⟩ = some (.emptyName 0) := by decide

end SqlFilter
