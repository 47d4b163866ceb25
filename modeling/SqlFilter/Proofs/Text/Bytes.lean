import SqlFilter.Calendar
import Mathlib.Algebra.Ring.Nat
import Mathlib.Data.List.Lex
import Mathlib.Order.Defs.LinearOrder

/-!
# Texts compared byte by byte

A database compares two texts as the lists of their bytes: at the first byte that differs, and if
there is none, the shorter text comes first.  Numbers that are written with the same number of
digits compare like this as they do by size, whatever follows them.

## Main results

* `Text.bytes`, `Text.bytes_append`.
* `Text.fixedDigits`, `Text.bytes_padded`: a number with zeros before it.
* `Text.fixedDigits_append_lt_iff`: numbers of one width, and what follows them.
-/

namespace SqlFilter.Text

/-! ## Bytes -/

/-- The bytes of a text as it is stored. -/
def bytes (s : String) : List UInt8 := s.toUTF8.data.toList

theorem bytes_eq_flatMap (s : String) : bytes s = s.toList.flatMap String.utf8EncodeChar := by
  show s.toByteArray.data.toList = _
  rw [← String.utf8Encode_toList]
  exact List.toList_data_toByteArray

theorem bytes_append (s t : String) : bytes (s ++ t) = bytes s ++ bytes t := by
  rw [bytes_eq_flatMap, bytes_eq_flatMap, bytes_eq_flatMap, String.toList_append,
    List.flatMap_append]

/-! ## Numbers of a fixed width -/

/-- The byte of a decimal digit. -/
def digitByte (n : Nat) : UInt8 := UInt8.ofNat (48 + n % 10)

theorem toNat_digitByte (n : Nat) : (digitByte n).toNat = 48 + n % 10 := by
  show (48 + n % 10) % 256 = 48 + n % 10
  omega

/-- The last digits of a number, so many of them. -/
def fixedDigits : Nat → Nat → List UInt8
  | 0, _ => []
  | width + 1, n => fixedDigits width (n / 10) ++ [digitByte n]

/-- **Numbers of one width compare by size**, and by what follows them if they are the same. -/
theorem fixedDigits_append_lt_iff {width : Nat} : ∀ {m n : Nat} {x y : List UInt8},
    m < 10 ^ width → n < 10 ^ width →
      (fixedDigits width m ++ x < fixedDigits width n ++ y ↔ m < n ∨ m = n ∧ x < y) := by
  induction width with
  | zero =>
      intro m n x y hm hn
      have hm0 : m = 0 := by simpa using hm
      have hn0 : n = 0 := by simpa using hn
      simp [fixedDigits, hm0, hn0]
  | succ width ih =>
      intro m n x y hm hn
      rw [Nat.pow_succ] at hm hn
      have hdigit : digitByte m < digitByte n ↔ m % 10 < n % 10 := by
        rw [UInt8.lt_iff_toNat_lt, toNat_digitByte, toNat_digitByte]
        omega
      have hsame : digitByte m = digitByte n ↔ m % 10 = n % 10 := by
        rw [← UInt8.toNat_inj, toNat_digitByte, toNat_digitByte]
        omega
      rw [fixedDigits, fixedDigits, List.append_assoc, List.append_assoc,
        ih (by omega) (by omega), List.singleton_append, List.singleton_append,
        List.cons_lt_cons_iff, hdigit, hsame]
      constructor
      · rintro (h | ⟨h, h' | ⟨h', hxy⟩⟩)
        · exact .inl (by omega)
        · exact .inl (by omega)
        · exact .inr ⟨by omega, hxy⟩
      · rintro (h | ⟨rfl, hxy⟩)
        · omega
        · exact .inr ⟨rfl, .inr ⟨rfl, hxy⟩⟩

/-- Numbers of one width that are closed by the same sign. -/
theorem fixedDigits_cons_lt_iff {width m n : Nat} {sign : UInt8} {x y : List UInt8}
    (hm : m < 10 ^ width) (hn : n < 10 ^ width) :
    fixedDigits width m ++ sign :: x < fixedDigits width n ++ sign :: y ↔
      m < n ∨ m = n ∧ x < y := by
  rw [fixedDigits_append_lt_iff hm hn, List.cons_lt_cons_iff]
  simp

theorem exists_fixedDigits_cons (width n : Nat) :
    ∃ b rest, 48 ≤ b ∧ fixedDigits (width + 1) n = b :: rest := by
  induction width generalizing n with
  | zero =>
      refine ⟨digitByte n, [], ?_, rfl⟩
      rw [UInt8.le_iff_toNat_le, toNat_digitByte]
      exact Nat.le_add_right 48 _
  | succ width ih =>
      obtain ⟨b, rest, hb, hdigits⟩ := ih (n / 10)
      exact ⟨b, rest ++ [digitByte n], hb, by rw [fixedDigits, hdigits, List.cons_append]⟩

/-- A number is the digits before a place and those behind it. -/
theorem fixedDigits_add (front back n : Nat) :
    fixedDigits (front + back) n = fixedDigits front (n / 10 ^ back) ++ fixedDigits back n := by
  induction back generalizing n with
  | zero => simp [fixedDigits]
  | succ back ih =>
      have hfront : n / 10 / 10 ^ back = n / 10 ^ (back + 1) := by
        rw [Nat.div_div_eq_div_mul, Nat.pow_succ, Nat.mul_comm]
      rw [← Nat.add_assoc, fixedDigits, ih, hfront, fixedDigits, List.append_assoc]

/-- A number of one width is the last digits of any number that ends in it. -/
theorem fixedDigits_mod (width n : Nat) :
    fixedDigits width (n % 10 ^ width) = fixedDigits width n := by
  induction width generalizing n with
  | zero => rfl
  | succ width ih =>
      have hfront : n % 10 ^ (width + 1) / 10 = n / 10 % 10 ^ width := by
        rw [Nat.pow_succ, Nat.mul_comm, Nat.mod_mul_right_div_self]
      have hlast : n % 10 ^ (width + 1) % 10 = n % 10 :=
        Nat.mod_mod_of_dvd n ⟨10 ^ width, by rw [Nat.pow_succ, Nat.mul_comm]⟩
      rw [fixedDigits, fixedDigits, hfront, ih, digitByte, digitByte, hlast]

/-- Digits in the middle are the same once those before them are cut off. -/
theorem fixedDigits_mod_div (width back n : Nat) :
    fixedDigits width (n % 10 ^ (back + width) / 10 ^ back) =
      fixedDigits width (n / 10 ^ back) := by
  rw [Nat.pow_add, Nat.mod_mul_right_div_self, fixedDigits_mod]

/-! ## Padded numbers -/

theorem utf8EncodeChar_digitChar {n : Nat} (h : n < 10) :
    String.utf8EncodeChar n.digitChar = [digitByte n] := by
  have hall : ∀ d : Fin 10, String.utf8EncodeChar d.val.digitChar = [digitByte d.val] := by decide
  exact hall ⟨n, h⟩

/-- One more place of a padded number is one more digit behind it. -/
theorem toList_padded_succ {width : Nat} (n : Nat) (h : 0 < width) :
    (padded (width + 1) n).toList = (padded width (n / 10)).toList ++ [(n % 10).digitChar] := by
  rw [padded, padded, String.toList_ofList, String.toList_ofList]
  rcases Nat.lt_or_ge n 10 with hn | hn
  · have hzero : Nat.toDigits 10 (n / 10) = ['0'] := by rw [Nat.div_eq_of_lt hn]; rfl
    have hzeros : List.replicate width '0' = List.replicate (width - 1) '0' ++ ['0'] := by
      rw [← List.replicate_succ', Nat.sub_add_cancel h]
    rw [hzero, Nat.toDigits_of_lt_base hn, Nat.mod_eq_of_lt hn, List.length_singleton,
      List.length_singleton, Nat.add_sub_cancel, hzeros]
  · rw [Nat.toDigits_of_base_le (by decide) hn, List.length_append, List.length_singleton,
      Nat.add_sub_add_right, List.append_assoc]

/-- **A number with zeros before it is written by its digits**, if it has room. -/
theorem bytes_padded {width n : Nat} (hwidth : 0 < width) (hn : n < 10 ^ width) :
    bytes (padded width n) = fixedDigits width n := by
  rw [bytes_eq_flatMap]
  induction width, hwidth using Nat.le_induction generalizing n with
  | base =>
      have hn : n < 10 := by simpa using hn
      simp [padded, Nat.toDigits_of_lt_base hn, utf8EncodeChar_digitChar hn, fixedDigits]
  | succ width hwidth ih =>
      have hlast : String.utf8EncodeChar (n % 10).digitChar = [digitByte n] := by
        rw [utf8EncodeChar_digitChar (Nat.mod_lt n (by decide)), digitByte, digitByte, Nat.mod_mod]
      have hfront : n / 10 < 10 ^ width := by
        rw [Nat.pow_succ] at hn
        omega
      rw [toList_padded_succ n hwidth, List.flatMap_append, ih hfront, List.flatMap_singleton,
        hlast, fixedDigits]

end SqlFilter.Text
