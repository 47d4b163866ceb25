import SqlFilter.Proofs.Rendering

/-!
# Fragments in a text

A statement is the fragments of its predicates, one after the other, with words and brackets
between them.  `Interspersed` says so of a text, and that there is no mark outside the fragments.
So a mark is found in the text where its fragment stands, and what was counted fragment by
fragment is counted in the text.

## Main results

* `Interspersed.append`, `interspersed_filterText`: texts that consist of fragments.
* `Interspersed.marks_eq`: the marks of the text are those of the fragments.
* `Interspersed.exists_around`: where a fragment stands.
-/

namespace SqlFilter

/-- The text consists of the fragments in order, and of texts without marks around them. -/
inductive Interspersed : List String → String → Prop
  | nil {gap : String} (hgap : marks gap = 0) : Interspersed [] gap
  | cons {gap fragment text : String} {rest : List String} (hgap : marks gap = 0)
      (tail : Interspersed rest text) : Interspersed (fragment :: rest) (gap ++ (fragment ++ text))

namespace Interspersed

/-! ## Putting texts together -/

/-- More text without marks in front. -/
theorem prepend {fragments : List String} {text gap : String} (hgap : marks gap = 0)
    (h : Interspersed fragments text) : Interspersed fragments (gap ++ text) := by
  cases h with
  | nil hinner => exact nil (by rw [marks_append, hgap, hinner])
  | cons hinner tail =>
      rw [← String.append_assoc]
      exact cons (by rw [marks_append, hgap, hinner]) tail

theorem append {fragments more : List String} {text text' : String}
    (h : Interspersed fragments text) (h' : Interspersed more text') :
    Interspersed (fragments ++ more) (text ++ text') := by
  induction h with
  | nil hgap => exact h'.prepend hgap
  | cons hgap tail ih =>
      rw [String.append_assoc, String.append_assoc, List.cons_append]
      exact cons hgap ih

/-- One fragment. -/
theorem single (fragment : String) : Interspersed [fragment] fragment := by
  have h : Interspersed [fragment] ("" ++ (fragment ++ "")) := cons rfl (nil rfl)
  rwa [String.empty_append, String.append_empty] at h

theorem eachAfter {word : String} (hword : marks word = 0) (fragments : List String) :
    Interspersed fragments (Text.eachAfter word fragments) := by
  induction fragments with
  | nil => exact nil rfl
  | cons fragment rest ih =>
      rw [Text.eachAfter, String.append_assoc]
      exact cons hword ih

theorem joinWith {word : String} (hword : marks word = 0) (fragments : List String) :
    Interspersed fragments (Text.joinWith word fragments) := by
  cases fragments with
  | nil => exact nil rfl
  | cons fragment rest =>
      rw [Text.joinWith_cons]
      exact (single fragment).append (eachAfter hword rest)

/-! ## What is known of the text -/

theorem marks_eq {fragments : List String} {text : String} (h : Interspersed fragments text) :
    marks text = totalMarks fragments := by
  induction h with
  | nil hgap => exact hgap
  | cons hgap tail ih =>
      rw [marks_append, marks_append, hgap, ih, Nat.zero_add, totalMarks]

/-- A fragment stands in the text after as many marks as the fragments before it have. -/
theorem exists_around {before after : List String} {fragment text : String}
    (h : Interspersed (before ++ fragment :: after) text) :
    ∃ front back, text = front ++ fragment ++ back ∧ marks front = totalMarks before := by
  induction before generalizing text with
  | nil =>
      cases h with
      | @cons gap _ rest _ hgap tail =>
          exact ⟨gap, rest, String.append_assoc.symm, hgap⟩
  | cons first more ih =>
      cases h with
      | @cons gap _ rest _ hgap tail =>
          obtain ⟨front, back, rfl, hfront⟩ := ih tail
          refine ⟨gap ++ first ++ front, back, ?_, ?_⟩
          · simp only [String.append_assoc]
          · rw [marks_append, marks_append, hgap, hfront, Nat.zero_add, totalMarks]

end Interspersed

/-- The text of the conditions consists of the fragments, alternatives last. -/
theorem interspersed_filterText (wheres ors : List String) :
    Interspersed (wheres ++ ors) (filterText wheres ors) := by
  have hwhere : marks " WHERE " = 0 := by decide
  have hopen : marks " WHERE (" = 0 := by decide
  have hclose : marks ")" = 0 := by decide
  have hand : marks " AND " = 0 := by decide
  have hor : marks " OR " = 0 := by decide
  cases wheres with
  | nil =>
      cases ors with
      | nil => exact .nil rfl
      | cons q qs => exact (Interspersed.joinWith hor (q :: qs)).prepend hwhere
  | cons p ps =>
      cases ors with
      | nil =>
          rw [List.append_nil]
          exact (Interspersed.joinWith hand (p :: ps)).prepend hwhere
      | cons q qs =>
          have hinner := ((Interspersed.joinWith hand (p :: ps)).prepend hopen).append (.nil hclose)
          rw [List.append_nil] at hinner
          exact hinner.append (Interspersed.eachAfter hor (q :: qs))

end SqlFilter
