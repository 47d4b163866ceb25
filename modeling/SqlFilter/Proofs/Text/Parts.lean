import SqlFilter.Proofs.Text.Space

/-!
# Texts in parts

Splitting a text at a separator takes the separators out and nothing else, and it is undone by
joining the parts.  What is trimmed neither begins nor ends with a blank, which is also how a text
is recognised that trimming leaves alone.

## Main results

* `splitChars_joinWith`: parts without the separator are read back off the joined text.
* `notMem_of_mem_splitChars`, `mem_of_mem_splitChars`: the characters of a part.
* `trimChars_eq_self_iff`, `mem_of_mem_trimChars`: the characters of a trimmed text.
-/

namespace SqlFilter.Text

/-! ## Splitting -/

theorem splitChars_eq_splitOn (sep : Char) (cs : List Char) :
    splitChars sep cs = cs.splitOn sep := by
  induction cs with
  | nil => rfl
  | cons c rest ih =>
      rw [splitChars, ih, List.splitOn_cons_eq_if_modifyHead]
      by_cases hc : c = sep
      · simp [hc]
      · have hne := List.splitOn_ne_nil sep rest
        simp only [hc, ↓reduceIte, beq_iff_eq]
        cases hparts : rest.splitOn sep with
        | nil => exact absurd hparts hne
        | cons part parts => rfl

/-- One character more is a part of its own or belongs to the first part. -/
theorem exists_splitChars_cons (sep c : Char) (cs : List Char) :
    ∃ part parts, splitChars sep cs = part :: parts ∧
      splitChars sep (c :: cs) = if c = sep then [] :: part :: parts else (c :: part) :: parts := by
  obtain ⟨part, parts, hparts⟩ := List.exists_cons_of_ne_nil (splitChars_ne_nil sep cs)
  exact ⟨part, parts, hparts, by rw [splitChars, hparts]⟩

/-- One character more at the end belongs to the last part, if it is no separator. -/
theorem exists_splitChars_concat {sep c : Char} (hc : c ≠ sep) (cs : List Char) :
    ∃ init last, splitChars sep cs = init ++ [last] ∧
      splitChars sep (cs ++ [c]) = init ++ [last ++ [c]] := by
  induction cs with
  | nil => exact ⟨[], [], rfl, by simp [splitChars, hc]⟩
  | cons x rest ih =>
      obtain ⟨init, last, hrest, hconcat⟩ := ih
      rw [List.cons_append, splitChars, splitChars, hrest, hconcat]
      by_cases hx : x = sep
      · rw [if_pos hx, if_pos hx]
        exact ⟨[] :: init, last, rfl, rfl⟩
      · rw [if_neg hx, if_neg hx]
        cases init with
        | nil => exact ⟨[], x :: last, rfl, rfl⟩
        | cons first more => exact ⟨(x :: first) :: more, last, rfl, rfl⟩

theorem notMem_of_mem_splitChars {sep : Char} {cs part : List Char}
    (h : part ∈ splitChars sep cs) : sep ∉ part := by
  induction cs generalizing part with
  | nil =>
      rw [splitChars, List.mem_singleton] at h
      simp [h]
  | cons c rest ih =>
      obtain ⟨first, parts, hparts, hcons⟩ := exists_splitChars_cons sep c rest
      rw [hcons] at h
      rw [hparts] at ih
      split at h
      · rcases List.mem_cons.mp h with rfl | h
        · exact List.not_mem_nil
        · exact ih h
      · rename_i hc
        rcases List.mem_cons.mp h with rfl | h
        · exact List.not_mem_cons_of_ne_of_not_mem (Ne.symm hc) (ih List.mem_cons_self)
        · exact ih (List.mem_cons_of_mem _ h)

theorem mem_of_mem_splitChars {x sep : Char} {cs part : List Char}
    (h : part ∈ splitChars sep cs) (hx : x ∈ part) : x ∈ cs := by
  induction cs generalizing part with
  | nil =>
      rw [splitChars, List.mem_singleton] at h
      rwa [h] at hx
  | cons c rest ih =>
      obtain ⟨first, parts, hparts, hcons⟩ := exists_splitChars_cons sep c rest
      rw [hcons] at h
      rw [hparts] at ih
      split at h
      · rcases List.mem_cons.mp h with rfl | h
        · cases hx
        · exact List.mem_cons_of_mem _ (ih h hx)
      · rcases List.mem_cons.mp h with rfl | h
        · rcases List.mem_cons.mp hx with rfl | hx
          · exact List.mem_cons_self
          · exact List.mem_cons_of_mem _ (ih List.mem_cons_self hx)
        · exact List.mem_cons_of_mem _ (ih (List.mem_cons_of_mem _ h) hx)

theorem splitChars_of_notMem {sep : Char} {cs : List Char} (h : sep ∉ cs) :
    splitChars sep cs = [cs] := by
  induction cs with
  | nil => rfl
  | cons c rest ih =>
      rw [List.mem_cons, not_or] at h
      have hc : ¬ c = sep := fun he => h.1 he.symm
      rw [splitChars, if_neg hc, ih h.2]

theorem eq_of_splitChars_eq_singleton {sep : Char} {cs part : List Char}
    (h : splitChars sep cs = [part]) : cs = part := by
  have hjoin : [sep].intercalate (cs.splitOn sep) = cs := List.intercalate_splitOn sep
  rw [← splitChars_eq_splitOn, h] at hjoin
  simpa [List.intercalate] using hjoin.symm

/-- The parts before and after a separator are the parts of the texts before and after it. -/
theorem splitChars_append_cons (sep : Char) (before after : List Char) :
    splitChars sep (before ++ sep :: after) = splitChars sep before ++ splitChars sep after := by
  induction before with
  | nil =>
      obtain ⟨first, parts, hparts, hcons⟩ := exists_splitChars_cons sep sep after
      rw [List.nil_append, hcons, if_pos rfl, hparts]
      rfl
  | cons c rest ih =>
      obtain ⟨first, parts, hparts⟩ := List.exists_cons_of_ne_nil (splitChars_ne_nil sep rest)
      rw [List.cons_append, splitChars, splitChars, ih, hparts]
      by_cases hc : c = sep
      · rw [if_pos hc, if_pos hc]
        rfl
      · rw [if_neg hc, if_neg hc]
        rfl

/-! ## Joining -/

theorem toList_joinWith {sep : String} {c : Char} (hsep : sep.toList = [c]) (parts : List String) :
    (joinWith sep parts).toList = [c].intercalate (parts.map String.toList) := by
  induction parts with
  | nil => rfl
  | cons s rest ih =>
      cases rest with
      | nil => simp [joinWith]
      | cons next more =>
          rw [joinWith, String.toList_append, String.toList_append, hsep, ih]
          · simp [List.intercalate]
          · exact List.cons_ne_nil _ _

theorem splitChars_joinWith {sep : String} {c : Char} (hsep : sep.toList = [c])
    {parts : List String} (hne : parts ≠ []) (h : ∀ part ∈ parts, c ∉ part.toList) :
    splitChars c (joinWith sep parts).toList = parts.map String.toList := by
  rw [splitChars_eq_splitOn, toList_joinWith hsep, List.splitOn_intercalate]
  · intro part hpart
    obtain ⟨s, hs, rfl⟩ := List.mem_map.mp hpart
    exact h s hs
  · simpa using hne

/-! ## Trimming -/

theorem trimChars_eq_self_iff {cs : List Char} :
    trimChars cs = cs ↔
      (∀ c ∈ cs.head?, isBlank c = false) ∧ ∀ c ∈ cs.getLast?, isBlank c = false := by
  have hstart : cs.dropWhile isBlank = cs ↔ ∀ c ∈ cs.head?, isBlank c = false := by
    cases cs with
    | nil => simp
    | cons c rest => simp [List.dropWhile_eq_self_iff]
  have hend : cs.rdropWhile isBlank = cs ↔ ∀ c ∈ cs.getLast?, isBlank c = false := by
    rcases cs.eq_nil_or_concat with rfl | ⟨init, c, rfl⟩
    · simp
    · simp [List.rdropWhile_eq_self_iff]
  rw [← hstart, ← hend, trimChars_eq]
  constructor
  · intro h
    -- What is left at the start is no longer than the text, and what is left of it is the text.
    have hsuffix := List.dropWhile_suffix (l := cs) isBlank
    have hprefix := List.rdropWhile_prefix isBlank (cs.dropWhile isBlank)
    rw [h] at hprefix
    have hdrop : cs.dropWhile isBlank = cs :=
      hsuffix.eq_of_length (Nat.le_antisymm hsuffix.length_le hprefix.length_le)
    rw [hdrop] at h
    exact ⟨hdrop, h⟩
  · rintro ⟨hdrop, hrdrop⟩
    rw [hdrop, hrdrop]

theorem trimChars_cons_of_isBlank {c : Char} (hc : isBlank c = true) (cs : List Char) :
    trimChars (c :: cs) = trimChars cs := by
  rw [trimChars_eq, trimChars_eq, List.dropWhile_cons_of_pos hc]

theorem trimChars_concat_of_isBlank {c : Char} (hc : isBlank c = true) (cs : List Char) :
    trimChars (cs ++ [c]) = trimChars cs := by
  rw [trimChars_eq, trimChars_eq, List.dropWhile_append]
  split
  · rename_i hempty
    rw [List.isEmpty_iff.mp hempty, List.dropWhile_cons_of_pos hc]
    rfl
  · exact List.rdropWhile_concat_pos _ _ _ hc

theorem mem_of_mem_trimChars {c : Char} {cs : List Char} (h : c ∈ trimChars cs) : c ∈ cs := by
  rw [trimChars_eq] at h
  exact (List.dropWhile_suffix isBlank).subset ((List.rdropWhile_prefix isBlank _).subset h)

theorem trimChars_append_of_blank {blanks : List Char} (h : ∀ c ∈ blanks, isBlank c = true)
    (cs : List Char) : trimChars (blanks ++ cs) = trimChars cs := by
  induction blanks with
  | nil => rfl
  | cons b rest ih =>
      rw [List.forall_mem_cons] at h
      rw [List.cons_append, trimChars_cons_of_isBlank h.1, ih h.2]

theorem trimChars_append_blank {blanks : List Char} (h : ∀ c ∈ blanks, isBlank c = true)
    (cs : List Char) : trimChars (cs ++ blanks) = trimChars cs := by
  induction blanks using List.reverseRecOn with
  | nil => rw [List.append_nil]
  | append_singleton rest b ih =>
      have hrest : ∀ c ∈ rest, isBlank c = true := fun c hc => h c (List.mem_append_left _ hc)
      have hb : isBlank b = true := h b (List.mem_append_right _ List.mem_cons_self)
      rw [← List.append_assoc, trimChars_concat_of_isBlank hb, ih hrest]

/-- Trimming takes nothing but blanks off. -/
theorem mem_trimChars_of_mem {c : Char} {cs : List Char} (hc : c ∈ cs)
    (hblank : isBlank c = false) : c ∈ trimChars cs := by
  have hdrop : ∀ cs : List Char, c ∈ cs → c ∈ cs.dropWhile isBlank := by
    intro cs hc
    rw [← List.takeWhile_append_dropWhile (p := isBlank) (l := cs), List.mem_append] at hc
    refine hc.resolve_left fun htake => ?_
    rw [List.mem_takeWhile_imp htake] at hblank
    cases hblank
  rw [trimChars, List.mem_reverse]
  exact hdrop _ (List.mem_reverse.mpr (hdrop cs hc))

theorem trim_eq_self_iff {s : String} : trim s = s ↔ trimChars s.toList = s.toList := by
  rw [← String.toList_inj, toList_trim]

/-- Of a text between blanks that has no blanks at its own ends, only the text is left. -/
theorem trim_between {before text after : String} (hbefore : isBlankText before = true)
    (hafter : isBlankText after = true) (htext : trim text = text) :
    trim (before ++ text ++ after) = text := by
  have hb : ∀ c ∈ before.toList, isBlank c = true := List.all_eq_true.mp hbefore
  have ha : ∀ c ∈ after.toList, isBlank c = true := List.all_eq_true.mp hafter
  rw [← String.toList_inj, toList_trim, String.toList_append, String.toList_append,
    trimChars_append_blank ha, trimChars_append_of_blank hb,
    trim_eq_self_iff.mp htext]

theorem trim_eq_self_of_no_blank {text : String} (h : ∀ c ∈ text.toList, isBlank c = false) :
    trim text = text := by
  rw [trim_eq_self_iff, trimChars_eq_self_iff]
  exact ⟨fun c hc => h c (List.mem_of_mem_head? hc), fun c hc => h c (List.mem_of_mem_getLast? hc)⟩

theorem notMem_of_isBlankText {blanks : String} (h : isBlankText blanks = true) {sign : Char}
    (hsign : isBlank sign = false) : sign ∉ blanks.toList := by
  intro hmem
  rw [List.all_eq_true.mp h sign hmem] at hsign
  cases hsign

/-- A text is blank exactly if nothing is left of it when it is trimmed. -/
theorem isBlankText_iff {s : String} : isBlankText s = true ↔ trim s = "" := by
  rw [← String.toList_inj, toList_trim, isBlankText, List.all_eq_true]
  constructor
  · intro h
    exact trimChars_append_blank h []
  · intro h c hc
    rw [← Bool.not_eq_false]
    intro hblank
    have hmem := mem_trimChars_of_mem hc hblank
    rw [h] at hmem
    cases hmem

end SqlFilter.Text
