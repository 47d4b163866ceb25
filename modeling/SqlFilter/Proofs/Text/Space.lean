import SqlFilter.Text.Space
import Mathlib.Data.List.DropRight

/-!
# Trimmed texts and cut texts

Trimming is done once and for all: what is trimmed has no blank at either end, and trimming it
again changes nothing.  Cutting a text at a separator is the same as writing the text with the
separator between two parts of which the first is free of it.

## Main results

* `trimChars_trimChars`, `trim_trim`.
* `cutChars_eq_some_iff`, `append_cons_inj`.
-/

namespace SqlFilter.Text

/-! ## Trimming -/

theorem trimChars_eq (cs : List Char) :
    trimChars cs = List.rdropWhile isBlank (cs.dropWhile isBlank) := rfl

/-- A text that does not start with a blank does not after its end is trimmed. -/
private theorem dropWhile_rdropWhile {cs : List Char}
    (h : cs.dropWhile isBlank = cs) :
    (cs.rdropWhile isBlank).dropWhile isBlank = cs.rdropWhile isBlank := by
  rw [List.dropWhile_eq_self_iff]
  intro hlen
  have hlead : cs.rdropWhile isBlank <+: cs := List.rdropWhile_prefix isBlank cs
  have hpos : 0 < cs.length := Nat.lt_of_lt_of_le hlen hlead.length_le
  have hhead := List.dropWhile_eq_self_iff.mp h hpos
  rw [hlead.getElem hlen]
  exact hhead

theorem trimChars_trimChars (cs : List Char) : trimChars (trimChars cs) = trimChars cs := by
  have hstart := List.dropWhile_idempotent (p := isBlank) (l := cs)
  rw [trimChars_eq, trimChars_eq, dropWhile_rdropWhile hstart, List.rdropWhile_idempotent]

@[simp] theorem toList_trim (s : String) : (trim s).toList = trimChars s.toList :=
  String.toList_ofList

theorem trim_trim (s : String) : trim (trim s) = trim s := by
  rw [trim, toList_trim, trimChars_trimChars]
  rfl

/-! ## Cutting -/

/-- A text is cut into two parts exactly if the separator stands between them and not in the
first. -/
theorem cutChars_eq_some_iff {sep : Char} {cs before after : List Char} :
    cutChars sep cs = some (before, after) ↔ cs = before ++ sep :: after ∧ sep ∉ before := by
  induction cs generalizing before with
  | nil => simp [cutChars]
  | cons c rest ih =>
      unfold cutChars
      by_cases hc : c = sep
      · subst hc
        rw [if_pos rfl]
        cases before with
        | nil => simp
        | cons b more =>
            constructor
            · intro h
              cases h
            · rintro ⟨heq, hmem⟩
              rw [List.cons_append] at heq
              exact absurd ((List.cons.inj heq).1 ▸ List.mem_cons_self) hmem
      · rw [if_neg hc]
        cases before with
        | nil => simp [hc]
        | cons b more =>
            constructor
            · intro h
              obtain ⟨⟨x, y⟩, hcut, heq⟩ := Option.map_eq_some_iff.mp h
              cases heq
              obtain ⟨hrest, hmem⟩ := ih.mp hcut
              refine ⟨by rw [hrest]; rfl, ?_⟩
              rw [List.mem_cons, not_or]
              exact ⟨fun he => hc he.symm, hmem⟩
            · rintro ⟨heq, hmem⟩
              rw [List.cons_append] at heq
              obtain ⟨rfl, hrest⟩ := List.cons.inj heq
              rw [List.mem_cons, not_or] at hmem
              rw [ih.mpr ⟨hrest, hmem.2⟩]
              rfl

/-- Two texts that are the same have the same parts before and after their first separator. -/
theorem append_cons_inj {sep : Char} {a b x y : List Char} (ha : sep ∉ a) (hb : sep ∉ b)
    (h : a ++ sep :: x = b ++ sep :: y) : a = b ∧ x = y := by
  have hfirst : cutChars sep (a ++ sep :: x) = some (a, x) := cutChars_eq_some_iff.mpr ⟨rfl, ha⟩
  have hsecond := cutChars_eq_some_iff.mpr ⟨h, hb⟩
  rw [hfirst] at hsecond
  cases hsecond
  exact ⟨rfl, rfl⟩

end SqlFilter.Text
