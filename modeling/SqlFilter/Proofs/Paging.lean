import SqlFilter.Proofs.Rendering
import Mathlib.Order.Interval.Set.Basic

/-!
# Pages

A page is a window of the rows, worked out on machine words.  The difference that counts the
pages before it stops at zero, and the product with their size stops at the largest word.  So an
offset is the exact number of the rows on the pages before, or the largest word if no word is that
number, and a page far behind is never taken for one in front.

Where no product is cut off, a page begins at the row at which the one before it ends.  A row is
then on the page that division by the size finds, and on no other.

## Main results

* `toNat_saturatingSub`, `toNat_saturatingMul`: the exact numbers behind the words.
* `Select.window`: the rows that a statement reads, and `Select.window_paginate`.
* `Select.pages_tile_rows`.
-/

namespace SqlFilter

/-! ## Words that stop at their bounds -/

theorem toNat_saturatingSub (a b : UInt64) : (saturatingSub a b).toNat = a.toNat - b.toNat := by
  unfold saturatingSub
  split
  · rename_i h
    rw [UInt64.lt_iff_toNat_lt] at h
    exact (Nat.sub_eq_zero_of_le (Nat.le_of_lt h)).symm
  · rename_i h
    rw [UInt64.lt_iff_toNat_lt, Nat.not_lt] at h
    exact UInt64.toNat_sub_of_le a b (UInt64.le_iff_toNat_le.mpr h)

theorem toNat_saturatingMul (a b : UInt64) :
    (saturatingMul a b).toNat = min (a.toNat * b.toNat) (UInt64.size - 1) := by
  unfold saturatingMul
  split
  · rename_i h
    rw [UInt64.toNat_mul, Nat.mod_eq_of_lt h, Nat.min_eq_left (Nat.le_sub_one_of_lt h)]
  · rename_i h
    have hle : UInt64.size - 1 ≤ a.toNat * b.toNat := by
      omega
    rw [Nat.min_eq_right hle]
    rfl

namespace Select

/-! ## The window of a page -/

/-- The rows that a statement reads, by their places among all rows that the conditions ask for.
Places count from 0. -/
def window (s : Select) : Set Nat :=
  {row | ∀ limit ∈ s.limit, row ∈ Set.Ico s.offset.toNat (s.offset.toNat + limit.toNat)}

/-- A statement is the one for all rows, and its window behind it. -/
theorem query_eq_append_windowText (s : Select) (d : Dialect) :
    s.query d =
      ((ofTable s.table s.condition).query d).append (windowText s.limit s.offset) := by
  have hall : (ofTable s.table s.condition).query d =
      (s.filtered d ("SELECT " ++ d.qualifyAll s.table ++ " FROM ")).append
        (sortText s.orders) := by
    rw [query_eq_append]
    simp only [ofTable, windowText, Statement.append, String.append_empty]
    rfl
  rw [query_eq_append, hall]

theorem toNat_offset_paginate (s : Select) (size index : UInt64) :
    (s.paginate size index).offset.toNat =
      min ((index.toNat - 1) * size.toNat) (UInt64.size - 1) := by
  have hone : (1 : UInt64).toNat = 1 := rfl
  rw [paginate, toNat_saturatingMul, toNat_saturatingSub, hone]

/-- The offset of a page is the exact number of the rows before it, up to the largest word. -/
theorem offset_paginate_eq (s : Select) (size index : UInt64) :
    ((s.paginate size index).offset.toNat : Int) =
      min (max ((index.toNat : Int) - 1) 0 * size.toNat) (UInt64.size - 1) := by
  have hpages : max ((index.toNat : Int) - 1) 0 = ((index.toNat - 1 : Nat) : Int) := by
    omega
  have hlargest : ((UInt64.size : Nat) : Int) - 1 = ((UInt64.size - 1 : Nat) : Int) := rfl
  rw [toNat_offset_paginate, hpages, hlargest, ← Int.natCast_mul]
  omega

/-- The rows before a page and those on it. -/
theorem rows_through_page {index : Nat} (hfirst : 1 ≤ index) (size : Nat) :
    (index - 1) * size + size = index * size := by
  rw [← Nat.succ_mul, Nat.succ_eq_add_one, Nat.sub_add_cancel hfirst]

/-- A page whose rows are all numbered by words. -/
theorem window_paginate (s : Select) {size index : UInt64}
    (hfirst : 1 ≤ index.toNat) (hfits : index.toNat * size.toNat ≤ UInt64.size - 1) :
    (s.paginate size index).window =
      Set.Ico ((index.toNat - 1) * size.toNat) (index.toNat * size.toNat) := by
  have hend := rows_through_page hfirst size.toNat
  have hoffset : (s.paginate size index).offset.toNat = (index.toNat - 1) * size.toNat := by
    rw [toNat_offset_paginate, Nat.min_eq_left (by omega)]
  ext row
  rw [window, Set.mem_ofPred_eq, hoffset]
  simp only [paginate, Option.mem_some_iff, forall_eq', hend]

theorem offset_paginate_mono (s : Select) (size : UInt64) {index index' : UInt64}
    (h : index ≤ index') : (s.paginate size index).offset ≤ (s.paginate size index').offset := by
  rw [UInt64.le_iff_toNat_le] at h
  rw [UInt64.le_iff_toNat_le, toNat_offset_paginate, toNat_offset_paginate]
  have hrows := Nat.mul_le_mul_right size.toNat (Nat.sub_le_sub_right h 1)
  omega

/-! ## Pages side by side -/

section Pages

variable (s : Select) {size : UInt64} {n : Nat} (hn : n * size.toNat ≤ UInt64.size - 1)

include hn

/-- The window of one of the first pages. -/
theorem window_paginate_of_le {index : UInt64} (hfirst : 1 ≤ index.toNat)
    (hlast : index.toNat ≤ n) :
    (s.paginate size index).window =
      Set.Ico ((index.toNat - 1) * size.toNat) (index.toNat * size.toNat) :=
  window_paginate s hfirst (Nat.le_trans (Nat.mul_le_mul_right size.toNat hlast) hn)

/-- A page begins where the one before it ends. -/
theorem offset_paginate_succ {index next : UInt64} (hfirst : 1 ≤ index.toNat)
    (hnext : next.toNat = index.toNat + 1) (hlast : next.toNat ≤ n) :
    (s.paginate size next).offset.toNat =
      (s.paginate size index).offset.toNat + size.toNat := by
  have hfits := Nat.le_trans (Nat.mul_le_mul_right size.toNat hlast) hn
  have hend := rows_through_page hfirst size.toNat
  rw [hnext, Nat.succ_mul] at hfits
  rw [toNat_offset_paginate, toNat_offset_paginate, hnext, Nat.add_sub_cancel]
  omega

/-- No row is on two pages. -/
theorem window_inter_window_paginate {index index' : UInt64} (hfirst : 1 ≤ index.toNat)
    (hlt : index < index') (hlast : index'.toNat ≤ n) :
    (s.paginate size index).window ∩ (s.paginate size index').window = ∅ := by
  rw [UInt64.lt_iff_toNat_lt] at hlt
  rw [window_paginate_of_le s hn hfirst (by omega), window_paginate_of_le s hn (by omega) hlast]
  have hends : index.toNat * size.toNat ≤ (index'.toNat - 1) * size.toNat :=
    Nat.mul_le_mul_right size.toNat (by omega)
  rw [Set.eq_empty_iff_forall_notMem]
  rintro row ⟨⟨-, hbefore⟩, hbehind, -⟩
  omega

/-- **The first pages hold the first rows**, and no others.  The row at a place is on the page that
division by the size finds. -/
theorem lt_iff_exists_page {row : Nat} :
    row < n * size.toNat ↔ ∃ index : UInt64, 1 ≤ index.toNat ∧ index.toNat ≤ n ∧
      row ∈ (s.paginate size index).window := by
  constructor
  · intro hrow
    have hsize : 0 < size.toNat := Nat.pos_of_mul_pos_left (Nat.zero_lt_of_lt hrow)
    have hpage : row / size.toNat < n := Nat.div_lt_of_lt_mul (Nat.mul_comm n _ ▸ hrow)
    have hword : row / size.toNat + 1 < UInt64.size := by
      have hpages := Nat.le_mul_of_pos_right n hsize
      have hpos : 0 < UInt64.size := by decide
      omega
    obtain ⟨index, hindex⟩ : ∃ index : UInt64, index.toNat = row / size.toNat + 1 :=
      ⟨UInt64.ofNat (row / size.toNat + 1), UInt64.toNat_ofNat_of_lt hword⟩
    have hfirst : 1 ≤ index.toNat := hindex ▸ Nat.le_add_left 1 _
    have hlast : index.toNat ≤ n := hindex ▸ hpage
    refine ⟨index, hfirst, hlast, ?_⟩
    rw [window_paginate_of_le s hn hfirst hlast, hindex, Nat.add_sub_cancel]
    exact ⟨Nat.div_mul_le_self row _, Nat.lt_mul_of_div_lt (Nat.lt_succ_self _) hsize⟩
  · rintro ⟨index, hfirst, hlast, hrow⟩
    rw [window_paginate_of_le s hn hfirst hlast] at hrow
    exact Nat.lt_of_lt_of_le hrow.2 (Nat.mul_le_mul_right size.toNat hlast)

end Pages

/-! ## All pages -/

/-- **Pages tile the rows and never wrap.**  Whatever window there was before, the offset of a page
is the exact number of the rows on the pages before it, up to the largest word, and the statement
asks for it and for the size.  The offset does not fall from page to page.  As long as the rows of
the first `n` pages are numbered by words, no two of these pages share a row, each begins where the
one before it ends, and together they hold the first `n * size` rows. -/
theorem pages_tile_rows :
    (∀ (s : Select) (size index : UInt64),
      ((s.paginate size index).offset.toNat : Int) =
        min (max ((index.toNat : Int) - 1) 0 * size.toNat) (UInt64.size - 1) ∧
      ∀ d : Dialect, (s.paginate size index).query d =
        ((ofTable s.table s.condition).query d).append
          (" LIMIT " ++ toString size.toNat ++ " OFFSET " ++
            toString (s.paginate size index).offset.toNat)) ∧
    (∀ (s : Select) (size index index' : UInt64), index ≤ index' →
      (s.paginate size index).offset ≤ (s.paginate size index').offset) ∧
    ∀ (s : Select) (size : UInt64) (n : Nat), n * size.toNat ≤ UInt64.size - 1 →
      (∀ index index' : UInt64, 1 ≤ index.toNat → index < index' → index'.toNat ≤ n →
        (s.paginate size index).window ∩ (s.paginate size index').window = ∅) ∧
      (∀ index next : UInt64, 1 ≤ index.toNat → next.toNat = index.toNat + 1 → next.toNat ≤ n →
        (s.paginate size next).offset.toNat =
          (s.paginate size index).offset.toNat + size.toNat) ∧
      ∀ row, row ∈ Set.Ico 0 (n * size.toNat) ↔ ∃ index : UInt64, 1 ≤ index.toNat ∧
        index.toNat ≤ n ∧ row ∈ (s.paginate size index).window := by
  refine ⟨?_, fun s size _ _ => offset_paginate_mono s size, ?_⟩
  · intro s size index
    refine ⟨offset_paginate_eq s size index, fun d => ?_⟩
    rw [query_eq_append_windowText]
    rfl
  · intro s size n hn
    refine ⟨fun _ _ => window_inter_window_paginate s hn, fun _ _ => offset_paginate_succ s hn, ?_⟩
    intro row
    rw [← lt_iff_exists_page s hn]
    exact ⟨fun h => h.2, fun h => ⟨Nat.zero_le row, h⟩⟩

/-- Pages of a third of all words each, and of half of them. -/
theorem pages_tile_rows_thirds :
    3 * (6148914691236517205 : UInt64).toNat ≤ UInt64.size - 1 ∧
      ((ofTable "users" .empty).paginate 6148914691236517205 1).window ∩
        ((ofTable "users" .empty).paginate 6148914691236517205 3).window = ∅ ∧
      (∃ index : UInt64, 1 ≤ index.toNat ∧ index.toNat ≤ 3 ∧
        18446744073709551614 ∈
          ((ofTable "users" .empty).paginate 6148914691236517205 index).window) ∧
      ((((ofTable "users" .empty).withLimit 7).paginate 9223372036854775808 4).query .mysql).sql =
        "SELECT \x60users\x60.* FROM \x60users\x60 LIMIT 9223372036854775808 " ++
          "OFFSET 18446744073709551615" := by
  obtain ⟨hquery, -, htile⟩ := pages_tile_rows
  have hfits : 3 * (6148914691236517205 : UInt64).toNat ≤ UInt64.size - 1 := by decide
  obtain ⟨happart, -, hcover⟩ := htile (ofTable "users" .empty) 6148914691236517205 3 hfits
  refine ⟨hfits, happart 1 3 (by decide) (by decide) (by decide), ?_, ?_⟩
  · exact (hcover 18446744073709551614).mp ⟨Nat.zero_le _, by decide⟩
  · rw [(hquery _ _ _).2 .mysql]
    decide

end Select

end SqlFilter
