import SqlFilter.Text.LetterCase

/-!
# Small letters and the ASCII letters

A word in small letters holds no ASCII capital.  Nor can a sign of ASCII come into it from
elsewhere: what the tables past ASCII give lies above `i`, the dotted capital `İ` gives `i`, and
an ASCII character gives its own small form.

## Main results

* `mem_lowerChars`: where the characters of a word in small letters come from.
* `isUpper_eq_false_of_mem_lowerChars`: none of them is an ASCII capital.
-/

namespace SqlFilter.Text

/-! ## Code points -/

theorem isUpper_iff_toNat (c : Char) : c.isUpper = true ↔ 65 ≤ c.toNat ∧ c.toNat ≤ 90 := by
  show decide (c.val ≥ 'A'.val ∧ c.val ≤ 'Z'.val) = true ↔ _
  rw [decide_eq_true_iff, ge_iff_le, UInt32.le_iff_toNat_le, UInt32.le_iff_toNat_le]
  exact Iff.rfl

theorem toNat_ofNat_of_isValidChar {n : Nat} (h : n.isValidChar) : (Char.ofNat n).toNat = n := by
  rw [Char.ofNat, dif_pos h]
  rfl

theorem toLower_eq_self {c : Char} (h : c.isUpper = false) : c.toLower = c := by
  rw [Bool.eq_false_iff, Ne, isUpper_iff_toNat] at h
  have hA : 'A'.val.toNat = 65 := rfl
  have hZ : 'Z'.val.toNat = 90 := rfl
  unfold Char.toLower
  split
  · rename_i hcapital
    simp only [ge_iff_le, UInt32.le_iff_toNat_le, hA, hZ] at hcapital
    exact absurd hcapital h
  · rfl

theorem toNat_toLower {c : Char} (h : c.isUpper = true) : c.toLower.toNat = c.toNat + 32 := by
  rw [isUpper_iff_toNat] at h
  have hA : 'A'.val.toNat = 65 := rfl
  have hZ : 'Z'.val.toNat = 90 := rfl
  have hcapital : c.val ≥ 'A'.val ∧ c.val ≤ 'Z'.val := by
    simp only [ge_iff_le, UInt32.le_iff_toNat_le, hA, hZ]
    exact h
  unfold Char.toLower
  rw [dif_pos hcapital]
  show (c.val + ('a'.val - 'A'.val)).toNat = c.val.toNat + 32
  rw [UInt32.toNat_add]
  show (c.val.toNat + 32) % 4294967296 = c.val.toNat + 32
  have hval : c.toNat = c.val.toNat := rfl
  omega

theorem isUpper_toLower (c : Char) : c.toLower.isUpper = false := by
  cases h : c.isUpper with
  | false => rw [toLower_eq_self h, h]
  | true =>
      have hlow := toNat_toLower h
      rw [isUpper_iff_toNat] at h
      rw [Bool.eq_false_iff, Ne, isUpper_iff_toNat]
      omega

/-- A sign below the small letters is the small form of nothing but itself. -/
theorem toLower_eq_self_of_toNat_lt {c : Char} (h : c.toLower.toNat < 97) : c.toLower = c := by
  cases hcapital : c.isUpper with
  | false => exact toLower_eq_self hcapital
  | true =>
      have hlow := toNat_toLower hcapital
      rw [isUpper_iff_toNat] at hcapital
      omega

/-! ## The tables past ASCII -/

/-- Every run of small letters consists of characters past `i`. -/
private theorem lowerRuns_past_ascii : ∀ run ∈ lowerRuns, 105 ≤ run.2.2.2 ∧
    (run.2.2.2 + (run.2.1 - run.1) < 0xD800 ∨
      (0xDFFF < run.2.2.2 ∧ run.2.2.2 + (run.2.1 - run.1) < 0x110000)) := by
  decide +kernel

theorem le_toNat_of_lookupLower {c small : Char} (h : lookupLower c = some small) :
    105 ≤ small.toNat := by
  obtain ⟨⟨first, last, step, least⟩, hmem, hrun⟩ := List.exists_of_findSome?_eq_some h
  simp only at hrun
  split at hrun
  · rename_i hin
    simp only [Bool.and_eq_true, decide_eq_true_eq] at hin
    obtain ⟨hleast, hvalid⟩ := lowerRuns_past_ascii _ hmem
    simp only at hleast hvalid
    have hchar : (least + (c.toNat - first)).isValidChar := by
      unfold Nat.isValidChar
      omega
    cases hrun
    rw [toNat_ofNat_of_isValidChar hchar]
    omega
  · cases hrun

/-! ## Words -/

theorem mem_lowerChar {c d : Char} (h : d ∈ lowerChar c) : d = c.toLower ∨ 105 ≤ d.toNat := by
  unfold lowerChar at h
  split at h
  · exact .inl (List.mem_singleton.mp h)
  · rename_i hascii
    split at h
    · rw [List.mem_cons, List.mem_singleton] at h
      rcases h with rfl | rfl <;> exact .inr (by decide)
    · rw [List.mem_singleton] at h
      cases hlookup : lookupLower c with
      | none =>
          rw [hlookup, Option.getD_none] at h
          rw [h]
          simp only [isAscii, decide_eq_true_eq] at hascii
          exact .inr (by omega)
      | some small =>
          rw [hlookup, Option.getD_some] at h
          rw [h]
          exact .inr (le_toNat_of_lookupLower hlookup)

private theorem mem_lowerFrom {d : Char} (cs : List Char) : ∀ before : List Char,
    d ∈ lowerFrom before cs → (∃ c ∈ cs, d = c.toLower) ∨ 105 ≤ d.toNat := by
  induction cs with
  | nil => intro before h; cases h
  | cons c rest ih =>
      intro before h
      have hrest : d ∈ lowerFrom (c :: before) rest →
          (∃ a ∈ c :: rest, d = a.toLower) ∨ 105 ≤ d.toNat := by
        intro hmem
        rcases ih (c :: before) hmem with ⟨a, ha, hd⟩ | hd
        · exact .inl ⟨a, List.mem_cons_of_mem _ ha, hd⟩
        · exact .inr hd
      rw [lowerFrom] at h
      split at h
      · rcases List.mem_cons.mp h with rfl | h
        · right
          split <;> decide
        · exact hrest h
      · rcases List.mem_append.mp h with h | h
        · rcases mem_lowerChar h with hd | hd
          · exact .inl ⟨c, List.mem_cons_self, hd⟩
          · exact .inr hd
        · exact hrest h

/-- A character of a word in small letters is the small form of an ASCII one, or past `i`. -/
theorem mem_lowerChars {d : Char} {cs : List Char} (h : d ∈ lowerChars cs) :
    (∃ c ∈ cs, d = c.toLower) ∨ 105 ≤ d.toNat :=
  mem_lowerFrom cs [] h

theorem isUpper_eq_false_of_mem_lowerChars {d : Char} {cs : List Char} (h : d ∈ lowerChars cs) :
    d.isUpper = false := by
  rcases mem_lowerChars h with ⟨c, -, rfl⟩ | hd
  · exact isUpper_toLower c
  · rw [Bool.eq_false_iff, Ne, isUpper_iff_toNat]
    omega

end SqlFilter.Text
