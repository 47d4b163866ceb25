import SqlFilter.Column
import SqlFilter.Proofs.Text.LetterCase

/-!
# The characters of a column name

Making a column name of a field's name only puts underscores in and letters into small form.  So
a column name holds no ASCII capital, and a sign that the name does not hold, such as the mark of
a parameter, is not in the column name either.

## Main results

* `mem_snakeCase`: where the characters of a column name come from.
* `isUpper_eq_false_of_mem_snakeCase`, `notMem_snakeCase`.
-/

namespace SqlFilter

/-! ## Clusters and words -/

namespace Text

private theorem mem_clustersFrom {c : Char} {found : List Char} (cs : List Char) :
    ∀ cluster : List Char, found ∈ clustersFrom cluster cs → c ∈ found →
      c ∈ cluster ∨ c ∈ cs := by
  induction cs with
  | nil =>
      intro cluster hfound hc
      rw [clustersFrom] at hfound
      split at hfound
      · cases hfound
      · rw [List.mem_singleton] at hfound
        exact .inl (by simpa [hfound] using hc)
  | cons d rest ih =>
      intro cluster hfound hc
      rw [clustersFrom] at hfound
      split at hfound
      · rcases ih (d :: cluster) hfound hc with h | h
        · rcases List.mem_cons.mp h with rfl | h
          · exact .inr List.mem_cons_self
          · exact .inl h
        · exact .inr (List.mem_cons_of_mem _ h)
      · rcases List.mem_cons.mp hfound with rfl | hfound
        · exact .inl (by simpa using hc)
        · rcases ih [d] hfound hc with h | h
          · exact .inr (by simp [List.mem_singleton.mp h])
          · exact .inr (List.mem_cons_of_mem _ h)

theorem mem_clusters {c : Char} {cluster cs : List Char} (hcluster : cluster ∈ clusters cs)
    (hc : c ∈ cluster) : c ∈ cs := by
  rcases mem_clustersFrom cs [] hcluster hc with h | h
  · cases h
  · exact h

theorem mem_joinWith {c : Char} {sep : String} {parts : List String}
    (h : c ∈ (joinWith sep parts).toList) : c ∈ sep.toList ∨ ∃ part ∈ parts, c ∈ part.toList := by
  induction parts with
  | nil => simp [joinWith] at h
  | cons part rest ih =>
      cases rest with
      | nil => exact .inr ⟨part, List.mem_cons_self, h⟩
      | cons next more =>
          rw [joinWith, String.toList_append, String.toList_append, List.mem_append,
            List.mem_append] at h
          · rcases h with (h | h) | h
            · exact .inr ⟨part, List.mem_cons_self, h⟩
            · exact .inl h
            · rcases ih h with h | ⟨found, hfound, hc⟩
              · exact .inl h
              · exact .inr ⟨found, List.mem_cons_of_mem _ hfound, hc⟩
          · exact List.cons_ne_nil _ _

end Text

theorem mem_wordsOf {c : Char} {word : List Char} : ∀ {clusters : List (List Char)},
    word ∈ wordsOf clusters → c ∈ word → ∃ cluster ∈ clusters, c ∈ cluster := by
  intro clusters
  induction clusters generalizing word with
  | nil =>
      intro hword hc
      rw [wordsOf, List.mem_singleton] at hword
      rw [hword] at hc
      cases hc
  | cons cluster rest ih =>
      intro hword hc
      have hrest : ∀ w ∈ wordsOf rest, c ∈ w → ∃ cl ∈ cluster :: rest, c ∈ cl := by
        intro w hw hcw
        obtain ⟨cl, hcl, hmem⟩ := ih hw hcw
        exact ⟨cl, List.mem_cons_of_mem _ hcl, hmem⟩
      unfold wordsOf at hword
      split at hword
      · rcases List.mem_cons.mp hword with rfl | hword
        · cases hc
        · exact hrest word hword hc
      · extract_lets begins at hword
        split at hword
        · rcases List.mem_cons.mp hword with rfl | hword
          · exact ⟨word, List.mem_cons_self, hc⟩
          · exact hrest word hword hc
        · split at hword
          · rw [List.mem_singleton] at hword
            exact ⟨cluster, List.mem_cons_self, hword ▸ hc⟩
          · rename_i first words heq
            rcases List.mem_cons.mp hword with rfl | hword
            · rcases List.mem_append.mp hc with hc | hc
              · exact ⟨cluster, List.mem_cons_self, hc⟩
              · exact hrest first (heq ▸ List.mem_cons_self) hc
            · exact hrest word (heq ▸ List.mem_cons_of_mem _ hword) hc

/-! ## Column names -/

/-- A character of a column name is an underscore or in a word of the name, in small letters. -/
theorem mem_snakeCase {c : Char} {name : String} (h : c ∈ (snakeCase name).toList) :
    c = '_' ∨ ∃ word, (∀ a ∈ word, a ∈ name.toList) ∧ c ∈ Text.lowerChars word := by
  rcases Text.mem_joinWith h with h | ⟨part, hpart, hc⟩
  · left
    simpa using h
  · obtain ⟨word, hword, rfl⟩ := List.mem_map.mp hpart
    rw [String.toList_ofList] at hc
    refine .inr ⟨word, ?_, hc⟩
    intro a ha
    obtain ⟨cluster, hcluster, hmem⟩ := mem_wordsOf hword ha
    exact Text.mem_clusters hcluster hmem

/-- A column name holds no ASCII capital. -/
theorem isUpper_eq_false_of_mem_snakeCase {c : Char} {name : String}
    (h : c ∈ (snakeCase name).toList) : c.isUpper = false := by
  rcases mem_snakeCase h with rfl | ⟨word, -, hc⟩
  · decide
  · exact Text.isUpper_eq_false_of_mem_lowerChars hc

/-- A sign below the small letters that is not in the name is not in the column name either, the
underscore apart. -/
theorem notMem_snakeCase {sign : Char} {name : String} (hsign : sign.toNat < 97)
    (hbar : sign ≠ '_') (hname : sign ∉ name.toList) : sign ∉ (snakeCase name).toList := by
  intro h
  rcases mem_snakeCase h with rfl | ⟨word, hword, hc⟩
  · exact hbar rfl
  · rcases Text.mem_lowerChars hc with ⟨a, ha, rfl⟩ | hlarge
    · rw [Text.toLower_eq_self_of_toNat_lt hsign] at hname
      exact hname (hword a ha)
    · omega

end SqlFilter
