import SqlFilter.Proofs.Segments
import Mathlib.Data.List.Nodup
import Mathlib.Logic.Relation

/-!
# Segments in any order

A tag is read segment by segment, but it is a description and no program: the order of its segments
should mean nothing.  It does not, as long as no key comes twice, because each key has a part of the
draft to itself.  There is one exception.  A text with an unknown operator and an unknown group is
refused for the one that comes first.

Segments that have no colon, or a key that is none of the known ones, leave the draft alone wherever
they stand, and blanks around segments, keys and values are trimmed off.  `Tag.Rearranges` is one
such change of the segments; a text can be changed into another by any number of them.  A step keeps
the keys and values that say something, up to their order, and therefore so does a run.

## Main results

* `Tag.fault?`, `Tag.Draft.say`, `Tag.Draft.addAll_eq`: segments one by one, without the draft they
  are added to.
* `Tag.read_perm`: keys and values in another order.
* `Tag.Rearranges`, `Tag.Rearranges.perm_said`, `Tag.perm_said_of_rearranged`: a step and a run.
* `Tag.segments_in_any_order`.
-/

namespace SqlFilter

open Text (isBlank trimChars cutChars splitChars)

namespace Tag

/-! ## What one segment does -/

/-- The keys that say something. -/
def knownKeys : List String := ["type", "column", "table", "join", "on", "group"]

/-- Whether a key is one of those that say something. -/
def isKnown (pair : String × String) : Bool := pair.1 ∈ knownKeys

/-- The words for a group; no word means `and`. -/
def groupWords : List String := ["", "and", "or"]

/-- What is wrong with a key and its value. -/
def fault? (pair : String × String) : Option TagError :=
  if pair.1 = "type" ∧ Operator.ofName? pair.2 = none then some (.unknownOperator pair.2)
  else if pair.1 = "group" ∧ pair.2 ∉ groupWords then some (.unknownGroup pair.2)
  else none

/-- Only an operator and a group can be wrong. -/
theorem fault?_eq_some {key value : String} {e : TagError} (h : fault? (key, value) = some e) :
    key = "type" ∧ Operator.ofName? value = none ∨ key = "group" ∧ value ∉ groupWords := by
  unfold fault? at h
  split_ifs at h with htype hgroup
  · exact .inl htype
  · exact .inr hgroup

namespace Draft

/-- The name that a value gives, or the one that is there if the value is empty. -/
def nameOr (value : String) (before : Option String) : Option String :=
  if value = "" then before else some value

/-- What a draft says after a key and a value with which nothing is wrong.  Every key has a part of
the draft to itself. -/
def say (draft : Draft) (pair : String × String) : Draft where
  operator := if pair.1 = "type" then (Operator.ofName? pair.2).getD .default else draft.operator
  column := if pair.1 = "column" then nameOr pair.2 draft.column else draft.column
  table := if pair.1 = "table" then nameOr pair.2 draft.table else draft.table
  joinTable := if pair.1 = "join" then nameOr pair.2 draft.joinTable else draft.joinTable
  joinColumns := if pair.1 = "on" then columnList pair.2 else draft.joinColumns
  group := if pair.1 = "group" then (if pair.2 = "or" then .or else .and) else draft.group

/-- A segment is refused if it is wrong, whatever the draft, and else it says what it says. -/
theorem add_eq (draft : Draft) (key value : String) :
    draft.add key value =
      match fault? (key, value) with
      | some e => .error e
      | none => .ok (draft.say (key, value)) := by
  unfold Draft.add
  split_ifs with htype hcolumn hempty htable hempty hjoin hempty hon hgroup hand hor
  · subst htype
    cases hop : Operator.ofName? value <;> simp [fault?, say, hop]
  · simp [fault?, say, nameOr, hcolumn, hempty]
  · simp [fault?, say, nameOr, hcolumn, hempty]
  · simp [fault?, say, nameOr, htable, hempty]
  · simp [fault?, say, nameOr, htable, hempty]
  · simp [fault?, say, nameOr, hjoin, hempty]
  · simp [fault?, say, nameOr, hjoin, hempty]
  · simp [fault?, say, hon]
  · have hor : value ≠ "or" := by rcases hand with rfl | rfl <;> decide
    have hwords : value ∈ groupWords := by rcases hand with rfl | rfl <;> decide
    simp [fault?, say, hgroup, hor, hwords]
  · have hwords : value ∈ groupWords := by rw [hor]; decide
    simp [fault?, say, hgroup, hor, groupWords]
  · rw [not_or] at hand
    simp [fault?, hgroup, groupWords, hand, hor]
  · simp [fault?, say, htype, hcolumn, htable, hjoin, hon, hgroup]

/-- A change at one key and a change at another can change places. -/
private theorem ite_key_comm {α : Type} (key : String) (change : String → α → α)
    {first second : String} (h : first ≠ second) (value value' : String) (x : α) :
    (if second = key then change value' (if first = key then change value x else x)
      else if first = key then change value x else x) =
    (if first = key then change value (if second = key then change value' x else x)
      else if second = key then change value' x else x) := by
  by_cases hfirst : first = key
  · have hsecond : ¬ second = key := fun he => h (hfirst.trans he.symm)
    simp [hfirst, hsecond]
  · simp [hfirst]

/-- **Segments with different keys can change places.** -/
theorem say_comm (draft : Draft) {pair pair' : String × String} (h : pair.1 ≠ pair'.1) :
    (draft.say pair).say pair' = (draft.say pair').say pair := by
  have hoperator := ite_key_comm "type" (fun value _ => (Operator.ofName? value).getD .default) h
    pair.2 pair'.2 draft.operator
  have hcolumn := ite_key_comm "column" nameOr h pair.2 pair'.2 draft.column
  have htable := ite_key_comm "table" nameOr h pair.2 pair'.2 draft.table
  have hjoin := ite_key_comm "join" nameOr h pair.2 pair'.2 draft.joinTable
  have hon := ite_key_comm "on" (fun value _ => columnList value) h pair.2 pair'.2
    draft.joinColumns
  have hgroup := ite_key_comm "group" (fun value _ => if value = "or" then Group.or else .and) h
    pair.2 pair'.2 draft.group
  simp only [say, hoperator, hcolumn, htable, hjoin, hon, hgroup]

/-- Segments are refused for the first that is wrong, and else each says what it says. -/
theorem addAll_eq (parts : List (String × String)) : ∀ draft : Draft,
    draft.addAll parts =
      match parts.findSome? fault? with
      | some e => .error e
      | none => .ok (parts.foldl say draft) := by
  induction parts with
  | nil =>
      intro draft
      rfl
  | cons pair rest ih =>
      intro draft
      obtain ⟨key, value⟩ := pair
      have hadd := draft.add_eq key value
      rw [Draft.addAll, List.findSome?_cons, List.foldl_cons]
      cases hfault : fault? (key, value) with
      | some e =>
          rw [hfault] at hadd
          simp only [hadd]
      | none =>
          rw [hfault] at hadd
          simp only [hadd]
          exact ih (draft.say (key, value))

/-- A key that is not known leaves the draft alone. -/
theorem add_of_unknown (draft : Draft) {key : String} (h : key ∉ knownKeys) (value : String) :
    draft.add key value = .ok draft := by
  simp only [knownKeys, List.mem_cons, List.not_mem_nil, or_false, not_or] at h
  simp [Draft.add, h]

theorem addAll_filter_isKnown (parts : List (String × String)) : ∀ draft : Draft,
    draft.addAll (parts.filter isKnown) = draft.addAll parts := by
  induction parts with
  | nil =>
      intro draft
      rfl
  | cons pair rest ih =>
      intro draft
      obtain ⟨key, value⟩ := pair
      by_cases hknown : key ∈ knownKeys
      · rw [List.filter_cons_of_pos (by simpa [isKnown] using hknown), addAll, addAll]
        split
        · exact ih _
        · rfl
      · rw [List.filter_cons_of_neg (by simpa [isKnown] using hknown), ih, addAll,
          add_of_unknown draft hknown]

end Draft

/-! ## Segments in another order -/

theorem skips_filter_isKnown (parts : List (String × String)) :
    skips (parts.filter isKnown) = skips parts := by
  rw [skips, skips, List.any_filter]
  congr 1
  funext ⟨key, value⟩
  by_cases hkey : key = "type"
  · subst hkey
    rfl
  · simp [hkey]

/-- Keys and values amount to what the known ones among them amount to. -/
theorem read_filter_isKnown (parts : List (String × String)) :
    read (parts.filter isKnown) = read parts := by
  rw [read, read, skips_filter_isKnown, Draft.addAll_filter_isKnown]

/-- No known key comes twice, and not both the operator and the group are unknown, so that what the
segments amount to does not hang on which comes first. -/
structure Unambiguous (parts : List (String × String)) : Prop where
  once : ∀ key ∈ knownKeys, parts.countP (·.1 = key) ≤ 1
  oneFault : ¬ ((∃ word, ("type", word) ∈ parts ∧ word ≠ "-" ∧ Operator.ofName? word = none) ∧
    ∃ word, ("group", word) ∈ parts ∧ word ∉ groupWords)

namespace Unambiguous

variable {parts : List (String × String)} (h : Unambiguous parts)
include h

theorem nodup_keys : ((parts.filter isKnown).map Prod.fst).Nodup := by
  refine List.nodup_iff_count_le_one.mpr fun key => ?_
  by_cases hkey : key ∈ knownKeys
  · calc ((parts.filter isKnown).map Prod.fst).count key
        = (parts.filter isKnown).countP (·.1 = key) := by
          rw [List.count, List.countP_map]
          rfl
      _ ≤ parts.countP (·.1 = key) := List.filter_sublist.countP_le
      _ ≤ 1 := h.once key hkey
  · rw [List.count_eq_zero_of_not_mem]
    · exact Nat.zero_le 1
    · intro hmem
      obtain ⟨pair, hpair, rfl⟩ := List.mem_map.mp hmem
      exact hkey (by simpa [isKnown] using (List.mem_filter.mp hpair).2)

/-- Of two known keys and values one is the other, or the keys differ. -/
theorem eq_or_key_ne {pair pair' : String × String} (hpair : pair ∈ parts.filter isKnown)
    (hpair' : pair' ∈ parts.filter isKnown) : pair = pair' ∨ pair.1 ≠ pair'.1 := by
  by_cases hkey : pair.1 = pair'.1
  · exact .inl (List.inj_on_of_nodup_map h.nodup_keys hpair hpair' hkey)
  · exact .inr hkey

/-- There is one fault at most, unless the field is skipped. -/
theorem fault_unique (hskips : skips parts = false) {pair pair' : String × String}
    (hpair : pair ∈ parts.filter isKnown) (hpair' : pair' ∈ parts.filter isKnown)
    {e e' : TagError} (he : fault? pair = some e) (he' : fault? pair' = some e') : e = e' := by
  rcases h.eq_or_key_ne hpair hpair' with rfl | hkey
  · rw [he] at he'
    exact Option.some.inj he'
  have hnoSkip : ∀ word, ("type", word) ∈ parts → word ≠ "-" := by
    rintro word hmem rfl
    have hskip := List.any_eq_false.mp hskips _ hmem
    simp at hskip
  obtain ⟨key, value⟩ := pair
  obtain ⟨key', value'⟩ := pair'
  have hmem := (List.mem_filter.mp hpair).1
  have hmem' := (List.mem_filter.mp hpair').1
  rcases fault?_eq_some he with ⟨rfl, hnone⟩ | ⟨rfl, hword⟩ <;>
    rcases fault?_eq_some he' with ⟨rfl, hnone'⟩ | ⟨rfl, hword'⟩
  · exact absurd rfl hkey
  · exact absurd ⟨⟨value, hmem, hnoSkip value hmem, hnone⟩, value', hmem', hword'⟩ h.oneFault
  · exact absurd ⟨⟨value', hmem', hnoSkip value' hmem', hnone'⟩, value, hmem, hword⟩ h.oneFault
  · exact absurd rfl hkey

end Unambiguous

/-- The first answer does not hang on the order if there is only one answer. -/
private theorem findSome?_eq_of_perm {α β : Type} {f : α → Option β} {xs ys : List α}
    (hperm : xs.Perm ys)
    (hone : ∀ x ∈ xs, ∀ y ∈ xs, ∀ a b, f x = some a → f y = some b → a = b) :
    xs.findSome? f = ys.findSome? f := by
  cases hys : ys.findSome? f with
  | none =>
      rw [List.findSome?_eq_none_iff] at hys ⊢
      exact fun x hx => hys x (hperm.mem_iff.mp hx)
  | some b =>
      obtain ⟨y, hy, hfy⟩ := List.exists_of_findSome?_eq_some hys
      cases hxs : xs.findSome? f with
      | none =>
          rw [List.findSome?_eq_none_iff.mp hxs y (hperm.mem_iff.mpr hy)] at hfy
          cases hfy
      | some a =>
          obtain ⟨x, hx, hfx⟩ := List.exists_of_findSome?_eq_some hxs
          exact congrArg some (hone x hx y (hperm.mem_iff.mpr hy) a b hfx hfy)

/-- **Keys and values in another order amount to the same**, with others among them whose keys are
not known. -/
theorem read_perm {parts parts' : List (String × String)} (h : Unambiguous parts)
    (hperm : (parts.filter isKnown).Perm (parts'.filter isKnown)) : read parts = read parts' := by
  have hskips : skips (parts.filter isKnown) = skips (parts'.filter isKnown) := hperm.any_eq
  rw [← read_filter_isKnown parts, ← read_filter_isKnown parts', read, read, ← hskips,
    skips_filter_isKnown]
  cases hskip : skips parts with
  | true => rfl
  | false =>
      have hfault : (parts.filter isKnown).findSome? fault? =
          (parts'.filter isKnown).findSome? fault? :=
        findSome?_eq_of_perm hperm fun pair hpair pair' hpair' _ _ =>
          h.fault_unique hskip hpair hpair'
      have hsaid : (parts.filter isKnown).foldl Draft.say Draft.empty =
          (parts'.filter isKnown).foldl Draft.say Draft.empty := by
        refine hperm.foldl_eq' (fun pair hpair pair' hpair' draft => ?_) _
        rcases h.eq_or_key_ne hpair hpair' with rfl | hkey
        · rfl
        · exact draft.say_comm hkey
      rw [Draft.addAll_eq, Draft.addAll_eq, hfault, hsaid]

/-! ## Blanks in a segment -/

theorem segment?_of_colon {key : List Char} (h : ':' ∉ key) (value : List Char) :
    segment? (key ++ ':' :: value) =
      some (String.ofList (trimChars key), String.ofList (trimChars value)) := by
  rw [segment?, Text.cutChars_eq_some_iff.mpr ⟨rfl, h⟩]
  rfl

theorem segment?_append_of_blank {blanks : List Char} (h : ∀ c ∈ blanks, isBlank c = true)
    (part : List Char) : segment? (blanks ++ part) = segment? part := by
  induction blanks with
  | nil => rfl
  | cons b rest ih =>
      rw [List.forall_mem_cons] at h
      rw [List.cons_append, segment?_cons_of_isBlank h.1, ih h.2]

theorem segment?_append_blank {blanks : List Char} (h : ∀ c ∈ blanks, isBlank c = true)
    (part : List Char) : segment? (part ++ blanks) = segment? part := by
  induction blanks using List.reverseRecOn with
  | nil => rw [List.append_nil]
  | append_singleton rest b ih =>
      have hrest : ∀ c ∈ rest, isBlank c = true := fun c hc => h c (List.mem_append_left _ hc)
      have hb : isBlank b = true := h b (List.mem_append_right _ List.mem_cons_self)
      rw [← List.append_assoc, segment?_concat_of_isBlank hb, ih hrest]

/-- Blanks around a segment, its key or its value. -/
inductive Spaced : List Char → List Char → Prop
  | around (before part after : List Char) (hbefore : ∀ c ∈ before, isBlank c = true)
      (hafter : ∀ c ∈ after, isBlank c = true) : Spaced part (before ++ part ++ after)
  | atColon (key before after value : List Char) (hkey : ':' ∉ key)
      (hbefore : ∀ c ∈ before, isBlank c = true) (hafter : ∀ c ∈ after, isBlank c = true) :
      Spaced (key ++ ':' :: value) (key ++ before ++ ':' :: (after ++ value))

namespace Spaced

variable {part part' : List Char} (h : Spaced part part')
include h

/-- Blanks do not change what a segment says. -/
theorem segment?_eq : segment? part' = segment? part := by
  cases h with
  | around before part after hbefore hafter =>
      rw [segment?_append_blank hafter, segment?_append_of_blank hbefore]
  | atColon key before after value hkey hbefore hafter =>
      have hcolon : ':' ∉ key ++ before := by
        rw [List.mem_append, not_or]
        exact ⟨hkey, fun hmem => Text.ne_of_isBlank (hbefore _ hmem) (by decide) rfl⟩
      rw [segment?_of_colon hcolon, segment?_of_colon hkey, Text.trimChars_append_blank hbefore,
        Text.trimChars_append_of_blank hafter]

/-- Blanks make no dash. -/
theorem of_dash (hdash : trimChars part' = ['-']) : trimChars part = ['-'] := by
  cases h with
  | around before part after hbefore hafter =>
      rwa [Text.trimChars_append_blank hafter, Text.trimChars_append_of_blank hbefore] at hdash
  | atColon key before after value hkey hbefore hafter =>
      have hcolon : ':' ∈ ['-'] :=
        hdash ▸ Text.mem_trimChars_of_mem (by simp) (by decide)
      simp at hcolon

end Spaced

/-! ## Rearranging a text -/

/-- A segment that says nothing: one without a colon, or with a key that is not known. -/
inductive Inert : List Char → Prop
  | noColon {part : List Char} (h : ':' ∉ part) : Inert part
  | unknownKey (key value : List Char) (hkey : ':' ∉ key)
      (hunknown : String.ofList (trimChars key) ∉ knownKeys) : Inert (key ++ ':' :: value)

/-- One change of the segments of a text. -/
inductive Rearranges : List (List Char) → List (List Char) → Prop
  | permute {parts parts' : List (List Char)} (h : parts.Perm parts') : Rearranges parts parts'
  | insert {part : List Char} (h : Inert part) (front back : List (List Char)) :
      Rearranges (front ++ back) (front ++ part :: back)
  | space {part part' : List Char} (h : Spaced part part') (front back : List (List Char)) :
      Rearranges (front ++ part :: back) (front ++ part' :: back)

/-- The segments of one text can be changed into those of another, by any number of changes. -/
def Rearranged (text text' : String) : Prop :=
  Relation.ReflTransGen Rearranges (splitChars ';' text.toList) (splitChars ';' text'.toList)

/-- The keys and values of segments that say something. -/
def said (parts : List (List Char)) : List (String × String) :=
  (parts.filterMap segment?).filter isKnown

theorem Inert.said_eq_nil {part : List Char} (h : Inert part) : said [part] = [] := by
  cases h with
  | noColon hcolon =>
      have hnone : segment? part = none := by
        rw [segment?, Option.map_eq_none_iff, Option.eq_none_iff_forall_ne_some]
        rintro ⟨before, after⟩ hcut
        exact hcolon ((Text.cutChars_eq_some_iff.mp hcut).1 ▸ by simp)
      simp [said, hnone]
  | unknownKey key value hkey hunknown =>
      simp [said, segment?_of_colon hkey, isKnown, hunknown]

theorem said_append (parts parts' : List (List Char)) :
    said (parts ++ parts') = said parts ++ said parts' := by
  simp [said]

theorem said_cons (part : List Char) (rest : List (List Char)) :
    said (part :: rest) = said [part] ++ said rest := said_append [part] rest

/-- A text that is only a dash, by its segments. -/
def OnlyDash (parts : List (List Char)) : Prop := ∃ part, parts = [part] ∧ trimChars part = ['-']

theorem onlyDash_splitChars_iff {text : List Char} :
    OnlyDash (splitChars ';' text) ↔ trimChars text = ['-'] := by
  constructor
  · rintro ⟨part, hparts, hdash⟩
    rwa [Text.eq_of_splitChars_eq_singleton hparts]
  · intro hdash
    have hsemicolon : ';' ∉ text := fun hmem => by
      have := hdash ▸ Text.mem_trimChars_of_mem hmem (by decide)
      simp at this
    exact ⟨text, Text.splitChars_of_notMem hsemicolon, hdash⟩

namespace Rearranges

variable {parts parts' : List (List Char)} (h : Rearranges parts parts')
include h

/-- **A change keeps what is said**, up to the order. -/
theorem perm_said : (said parts).Perm (said parts') := by
  cases h with
  | permute hperm => exact (hperm.filterMap _).filter _
  | @insert part hinert front back =>
      rw [said_append, said_append, said_cons part, hinert.said_eq_nil, List.nil_append]
  | @space part part' hspaced front back =>
      have hsaid : said [part'] = said [part] := by
        simp [said, List.filterMap_cons, hspaced.segment?_eq]
      rw [said_append, said_append, said_cons part, said_cons part', hsaid]

theorem ne_nil (hne : parts ≠ []) : parts' ≠ [] := by
  cases h with
  | permute hperm =>
      rintro rfl
      exact hne hperm.eq_nil
  | insert hinert front back => simp
  | space hspaced front back => simp

theorem onlyDash_of_onlyDash (hne : parts ≠ []) (hdash : OnlyDash parts') : OnlyDash parts := by
  obtain ⟨whole, hwhole, htrim⟩ := hdash
  cases h with
  | permute hperm =>
      subst hwhole
      exact ⟨whole, List.perm_singleton.mp hperm, htrim⟩
  | insert hinert front back =>
      -- Beside the segment that was put in there is another, and a dash has none.
      rw [List.append_eq_singleton_iff] at hwhole
      rcases hwhole with ⟨rfl, hcons⟩ | ⟨_, hcons⟩
      · cases hcons
        exact absurd rfl hne
      · cases hcons
  | space hspaced front back =>
      rw [List.append_eq_singleton_iff] at hwhole
      rcases hwhole with ⟨rfl, hcons⟩ | ⟨_, hcons⟩
      · cases hcons
        exact ⟨_, rfl, hspaced.of_dash htrim⟩
      · cases hcons

end Rearranges

/-- **A run keeps what is said**, up to the order. -/
theorem perm_said_of_rearranged {parts parts' : List (List Char)}
    (h : Relation.ReflTransGen Rearranges parts parts') : (said parts).Perm (said parts') := by
  induction h with
  | refl => exact List.Perm.refl _
  | tail _ hstep ih => exact ih.trans hstep.perm_said

/-- No run ends at only a dash that does not start there. -/
theorem onlyDash_of_rearranged {parts parts' : List (List Char)} (hne : parts ≠ [])
    (h : Relation.ReflTransGen Rearranges parts parts') :
    parts' ≠ [] ∧ (OnlyDash parts' → OnlyDash parts) := by
  induction h with
  | refl => exact ⟨hne, id⟩
  | tail _ hstep ih =>
      exact ⟨hstep.ne_nil ih.1, fun hdash => ih.2 (hstep.onlyDash_of_onlyDash ih.1 hdash)⟩

/-- A segment that skips the field skips it among any others. -/
theorem skips_of_mem {text key value : List Char}
    (hpart : key ++ ':' :: value ∈ splitChars ';' text) (hkey : ':' ∉ key)
    (htype : trimChars key = "type".toList)
    (hdash : trimChars value = "-".toList) : skips (segments text) = true := by
  refine List.any_eq_true.mpr ⟨("type", "-"), List.mem_filterMap.mpr ⟨_, hpart, ?_⟩, rfl⟩
  rw [segment?_of_colon hkey, htype, hdash]
  rfl

/-! ## The order of segments -/

/-- **The segments of a tag can come in any order, and unknown ones anywhere among them.**  A text
in which no key comes twice and in which not both the operator and the group are unknown is read as
the same tag, the same skip or the same error after its segments have changed places, segments
without a colon or with an unknown key have been put in, and blanks have been put around segments,
keys and values.  And whatever the segments are, one that skips the field skips it. -/
theorem segments_in_any_order (text : String) :
    (∀ text', trimChars text.toList ≠ ['-'] → Unambiguous (segments text.toList) →
        Rearranged text text' → parse text' = parse text) ∧
      ∀ key value : List Char, key ++ ':' :: value ∈ splitChars ';' text.toList → ':' ∉ key →
        trimChars key = "type".toList → trimChars value = "-".toList →
        parse text = .ok none := by
  refine ⟨fun text' hdash hunambiguous hrun => ?_, fun key value hpart hkey htype hskip => ?_⟩
  · have hdash' : trimChars text'.toList ≠ ['-'] := fun hdash' =>
      hdash (onlyDash_splitChars_iff.mp
        ((onlyDash_of_rearranged (Text.splitChars_ne_nil _ _) hrun).2
          (onlyDash_splitChars_iff.mpr hdash')))
    rw [parse_eq_read hdash, parse_eq_read hdash']
    exact (read_perm hunambiguous (perm_said_of_rearranged hrun)).symm
  · by_cases hdash : trimChars text.toList = ['-']
    · exact parse_of_dash hdash
    · rw [parse_eq_read hdash, read, skips_of_mem hpart hkey htype hskip]
      rfl

/-- A lower bound after its group, with a key that is no key and some blanks; and a field that is
skipped although its operator and its group are unknown. -/
theorem segments_in_any_order_lowerBound :
    parse "colour:red;group : or;type:gte" = parse "type:gte;group:or" ∧
      parse "group:xor; type : - ;type:between" = .ok none := by
  have hrun : Rearranged "type:gte;group:or" "colour:red;group : or;type:gte" := by
    have hstart : splitChars ';' "type:gte;group:or".toList =
        ["type:gte".toList, "group:or".toList] := by decide
    have hend : splitChars ';' "colour:red;group : or;type:gte".toList =
        ["colour:red".toList, "group : or".toList, "type:gte".toList] := by decide
    have hblank : ∀ c ∈ [' '], isBlank c = true := List.forall_mem_singleton.mpr rfl
    rw [Rearranged, hstart, hend]
    calc Relation.ReflTransGen Rearranges ["type:gte".toList, "group:or".toList]
          ["group:or".toList, "type:gte".toList] :=
        .single (.permute (List.Perm.swap _ _ _))
      Relation.ReflTransGen Rearranges _ ["group : or".toList, "type:gte".toList] :=
        .single (.space (.atColon "group".toList [' '] [' '] "or".toList (by decide) hblank hblank)
          [] _)
      Relation.ReflTransGen Rearranges _
          ["colour:red".toList, "group : or".toList, "type:gte".toList] :=
        .single (.insert (.unknownKey "colour".toList "red".toList (by decide) (by decide)) [] _)
  have hunambiguous : Unambiguous (segments "type:gte;group:or".toList) := by
    have hsegments : segments "type:gte;group:or".toList = [("type", "gte"), ("group", "or")] := by
      decide
    rw [hsegments]
    refine ⟨by decide, ?_⟩
    rintro ⟨⟨word, hword, -, hnone⟩, -⟩
    obtain rfl : word = "gte" := by simpa using hword
    exact absurd hnone (by decide)
  exact ⟨(segments_in_any_order _).1 _ (by decide) hunambiguous hrun,
    (segments_in_any_order _).2 " type ".toList " - ".toList (by decide) (by decide) (by decide)
      (by decide)⟩

/-- With two faults in a text the order does count. -/
example : parse "type:between;group:xor" = .error (.unknownOperator "between") ∧
    parse "group:xor;type:between" = .error (.unknownGroup "xor") := by decide

end Tag

end SqlFilter
