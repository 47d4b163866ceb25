import SqlFilter.Compile.Emission
import SqlFilter.Proofs.Text.Bytes

/-!
# Dates and moments as texts

A database has no dates of its own: it is handed their texts, and compares those byte by byte.
The answer is right only if the texts stand in the order of time.  Every part of a date, and of a
moment down to its second, has as many digits in one text as in another, so that each counts
before what follows it.  The fraction of a second has not.  But it is written in groups of three
digits and ends where nothing but zeros would follow, and what comes there is the `+` of the zone:
it stands before the point and before every digit, as a shorter fraction stands before one that
goes on.

A leap second is held as a second 59 that runs on, and written as a second 60.  It comes after
the rest of its minute in both forms.

## Main results

* `Date.lt_iff`, `Timestamp.lt_iff`: the order of time.
* `Fraction.groups_lt_iff`, `Fraction.bytes_fractionText`: fractions of different lengths.
* `Date.bytes_text_append_lt_iff`, `Timestamp.clock_lt_iff`, `Timestamp.bytes_text_lt_iff`.
* `SqlValue.texts_stand_for_time`: what the comparisons of a statement say of stored texts.
-/

namespace SqlFilter

/-! ## The order of time -/

/-- The date comes before the other: by year, then by month, then by day. -/
def Date.Earlier (a b : Date) : Prop :=
  a.year < b.year ∨ a.year = b.year ∧ (a.month < b.month ∨ a.month = b.month ∧ a.day < b.day)

instance : LT Date := ⟨Date.Earlier⟩

theorem Date.lt_iff {a b : Date} : a < b ↔ a.year < b.year ∨
    a.year = b.year ∧ (a.month < b.month ∨ a.month = b.month ∧ a.day < b.day) :=
  Iff.rfl

theorem Date.eq_iff {a b : Date} :
    a = b ↔ a.year = b.year ∧ a.month = b.month ∧ a.day = b.day := by
  cases a
  cases b
  rw [Date.mk.injEq]

theorem Date.lt_trichotomy (a b : Date) : a < b ∨ a = b ∨ b < a := by
  rw [Date.lt_iff, Date.lt_iff, Date.eq_iff]
  omega

/-- The seconds of the day before the moment. -/
def Timestamp.secondOfDay (t : Timestamp) : Nat := t.hour * 3600 + t.minute * 60 + t.second

/-- The moment comes before the other: by date, then by second of the day, then by the
nanoseconds past it, which in a leap second are a thousand million and more. -/
def Timestamp.Earlier (a b : Timestamp) : Prop :=
  a.date < b.date ∨ a.date = b.date ∧
    (a.secondOfDay < b.secondOfDay ∨ a.secondOfDay = b.secondOfDay ∧ a.nanos < b.nanos)

instance : LT Timestamp := ⟨Timestamp.Earlier⟩

theorem Timestamp.lt_iff {a b : Timestamp} : a < b ↔ a.date < b.date ∨ a.date = b.date ∧
    (a.secondOfDay < b.secondOfDay ∨ a.secondOfDay = b.secondOfDay ∧ a.nanos < b.nanos) :=
  Iff.rfl

theorem Timestamp.ext_of_secondOfDay {a b : Timestamp} (hdate : a.date = b.date)
    (hsecond : a.secondOfDay = b.secondOfDay) (hnanos : a.nanos = b.nanos) : a = b := by
  have hparts : a.hour = b.hour ∧ a.minute = b.minute ∧ a.second = b.second := by
    have := a.minute_lt
    have := b.minute_lt
    have := a.second_lt
    have := b.second_lt
    unfold Timestamp.secondOfDay at hsecond
    omega
  cases a
  cases b
  simp only [Timestamp.mk.injEq]
  exact ⟨hdate, hparts.1, hparts.2.1, hparts.2.2, hnanos⟩

theorem Timestamp.lt_trichotomy (a b : Timestamp) : a < b ∨ a = b ∨ b < a := by
  rw [Timestamp.lt_iff, Timestamp.lt_iff]
  rcases Date.lt_trichotomy a.date b.date with hdate | hdate | hdate
  · exact .inl (.inl hdate)
  · rcases Nat.lt_trichotomy a.secondOfDay b.secondOfDay with hsecond | hsecond | hsecond
    · exact .inl (.inr ⟨hdate, .inl hsecond⟩)
    · rcases Nat.lt_trichotomy a.nanos b.nanos with hnanos | hnanos | hnanos
      · exact .inl (.inr ⟨hdate, .inr ⟨hsecond, hnanos⟩⟩)
      · exact .inr (.inl (Timestamp.ext_of_secondOfDay hdate hsecond hnanos))
      · exact .inr (.inr (.inr ⟨hdate.symm, .inr ⟨hsecond.symm, hnanos⟩⟩))
    · exact .inr (.inr (.inr ⟨hdate.symm, .inl hsecond⟩))
  · exact .inr (.inr (.inl hdate))

/-! ## Fractions of a second -/

open Text

namespace Fraction

/-- The zone of every moment. -/
def zone : List UInt8 := bytes "+00:00"

/-- The digits behind a point, so many groups of three and no more of them than are exact, and
the zone. -/
def groups : Nat → Nat → List UInt8
  | 0, _ => zone
  | count + 1, n =>
    if n = 0 then zone else fixedDigits 3 (n / 1000 ^ count) ++ groups count (n % 1000 ^ count)

/-- The zone comes before whatever goes on with a digit, or with a point. -/
theorem zone_lt_cons {b : UInt8} (h : 46 ≤ b) (rest : List UInt8) : zone < b :: rest := by
  have hzone : zone = 43 :: bytes "00:00" := by decide
  rw [hzone, List.cons_lt_cons_iff, UInt8.lt_iff_toNat_lt]
  rw [UInt8.le_iff_toNat_le] at h
  exact .inl (Nat.lt_of_lt_of_le (by decide) h)

theorem zone_lt_fixedDigits (width n : Nat) (rest : List UInt8) :
    zone < fixedDigits (width + 1) n ++ rest := by
  obtain ⟨b, digits, hb, hdigits⟩ := exists_fixedDigits_cons width n
  rw [hdigits, List.cons_append]
  exact zone_lt_cons (UInt8.le_trans (by decide) hb) _

/-- Numbers compare by what stands before a place, and then by what stands behind it. -/
theorem lt_iff_div_mod (place : Nat) {m n : Nat} : m < n ↔
    m / place < n / place ∨ m / place = n / place ∧ m % place < n % place := by
  have hm := Nat.div_add_mod m place
  have hn := Nat.div_add_mod n place
  constructor
  · intro h
    rcases Nat.lt_or_eq_of_le (Nat.div_le_div_right (c := place) (Nat.le_of_lt h)) with hlt | heq
    · exact .inl hlt
    · rw [heq] at hm
      exact .inr ⟨heq, by omega⟩
  · rintro (hlt | ⟨heq, hlt⟩)
    · exact Nat.lt_of_div_lt_div hlt
    · rw [heq] at hm
      omega

/-- **Fractions of different lengths compare by size.** -/
theorem groups_lt_iff {count : Nat} : ∀ {m n : Nat}, m < 1000 ^ count → n < 1000 ^ count →
    (groups count m < groups count n ↔ m < n) := by
  induction count with
  | zero =>
      intro m n hm hn
      have hm0 : m = 0 := by simpa using hm
      have hn0 : n = 0 := by simpa using hn
      simp [groups, hm0, hn0]
  | succ count ih =>
      intro m n hm hn
      rw [Nat.pow_succ] at hm hn
      have hpos : 0 < 1000 ^ count := Nat.pow_pos (by decide)
      rw [groups, groups]
      split
      case isTrue hm0 =>
        split
        case isTrue hn0 => simp [hm0, hn0]
        -- One fraction ends where the other goes on: the zone meets a digit.
        case isFalse hn0 => exact iff_of_true (zone_lt_fixedDigits 2 _ _) (by omega)
      case isFalse hm0 =>
        split
        case isTrue hn0 =>
          exact iff_of_false (List.lt_asymm (zone_lt_fixedDigits 2 _ _)) (by omega)
        case isFalse hn0 =>
          rw [fixedDigits_append_lt_iff (Nat.div_lt_of_lt_mul hm) (Nat.div_lt_of_lt_mul hn),
            ih (Nat.mod_lt m hpos) (Nat.mod_lt n hpos), ← lt_iff_div_mod (1000 ^ count)]

/-- What follows the second of a moment: the zone, or a point and groups of digits before it. -/
def tail (nanos : Nat) : List UInt8 := if nanos = 0 then zone else 46 :: groups 3 nanos

theorem tail_lt_iff {m n : Nat} (hm : m < 1000000000) (hn : n < 1000000000) :
    tail m < tail n ↔ m < n := by
  rw [tail, tail]
  split
  case isTrue hm0 =>
    split
    case isTrue hn0 => simp [hm0, hn0]
    case isFalse hn0 => exact iff_of_true (zone_lt_cons (by decide) _) (by omega)
  case isFalse hm0 =>
    split
    case isTrue hn0 => exact iff_of_false (List.lt_asymm (zone_lt_cons (by decide) _)) (by omega)
    case isFalse hn0 =>
      rw [List.cons_lt_cons_iff, groups_lt_iff hm hn]
      simp

/-- The text of a fraction, with the zone behind it. -/
theorem bytes_fractionText {nanos : Nat} (h : nanos < 1000000000) :
    bytes (fractionText nanos) ++ zone = tail nanos := by
  have hpoint : bytes "." = [46] := by decide
  have hmiddle : fixedDigits 3 (nanos % 1000000 / 1000) = fixedDigits 3 (nanos / 1000) :=
    fixedDigits_mod_div 3 3 nanos
  rw [fractionText, tail]
  split
  case isTrue => rfl
  case isFalse hne =>
    split
    case isTrue hmillis =>
      rw [bytes_append, bytes_padded (by decide) (by omega), hpoint]
      simp [groups, hne, hmillis]
    case isFalse hmillis =>
      split
      case isTrue hmicros =>
        rw [bytes_append, bytes_padded (by decide) (by omega), hpoint, fixedDigits_add 3 3]
        have hthird : nanos % 1000000 % 1000 = 0 := by omega
        simp [groups, hne, hmillis, hmiddle, hthird, Nat.div_div_eq_div_mul]
      case isFalse hmicros =>
        rw [bytes_append, bytes_padded (by decide) (by omega), hpoint, fixedDigits_add 6 3,
          fixedDigits_add 3 3]
        have hthird : nanos % 1000000 % 1000 = nanos % 1000 := by omega
        have hlast : fixedDigits 3 (nanos % 1000) = fixedDigits 3 nanos := fixedDigits_mod 3 nanos
        simp [groups, hne, hmillis, hmicros, hmiddle, hthird, hlast, Nat.div_div_eq_div_mul]

end Fraction

/-! ## Texts of dates -/

theorem daysInMonth_le (year : Int) (month : Nat) : daysInMonth year month ≤ 31 := by
  unfold daysInMonth
  split
  · split <;> omega
  · split <;> omega

/-- The year is written with four digits and no sign. -/
def Date.InFourDigits (d : Date) : Prop := 0 ≤ d.year ∧ d.year ≤ 9999

instance : DecidablePred Date.InFourDigits := fun d =>
  inferInstanceAs (Decidable (0 ≤ d.year ∧ d.year ≤ 9999))

/-- Every part of a date has room in its digits. -/
theorem Date.parts_lt {d : Date} (h : d.InFourDigits) :
    d.year.toNat < 10 ^ 4 ∧ d.month < 10 ^ 2 ∧ d.day < 10 ^ 2 := by
  have hyear := h.2
  have hmonth := d.month_range
  have hday := d.day_range
  have hlast := daysInMonth_le d.year d.month
  omega

theorem Date.bytes_text {d : Date} (h : d.InFourDigits) :
    bytes d.text = fixedDigits 4 d.year.toNat ++
      45 :: (fixedDigits 2 d.month ++ 45 :: fixedDigits 2 d.day) := by
  have hdash : bytes "-" = [45] := by decide
  obtain ⟨hyear, hmonth, hday⟩ := parts_lt h
  have hfour : yearText d.year = padded 4 d.year.toNat := if_pos h
  rw [Date.text, hfour]
  simp only [bytes_append, bytes_padded (by decide) hyear, bytes_padded (by decide) hmonth,
    bytes_padded (by decide) hday, hdash, List.append_assoc, List.cons_append,
    List.nil_append]

/-- **The texts of dates stand in the order of the dates**, whatever follows them. -/
theorem Date.bytes_text_append_lt_iff {a b : Date} (ha : a.InFourDigits) (hb : b.InFourDigits)
    {x y : List UInt8} :
    bytes a.text ++ x < bytes b.text ++ y ↔ a < b ∨ a = b ∧ x < y := by
  obtain ⟨hyear, hmonth, hday⟩ := parts_lt ha
  obtain ⟨hyear', hmonth', hday'⟩ := parts_lt hb
  have hnat : a.year.toNat < b.year.toNat ↔ a.year < b.year := by
    have := ha.1
    omega
  have hnat' : a.year.toNat = b.year.toNat ↔ a.year = b.year := by
    have := ha.1
    have := hb.1
    omega
  rw [bytes_text ha, bytes_text hb, List.append_assoc, List.append_assoc, List.cons_append,
    List.cons_append, List.append_assoc, List.append_assoc, List.cons_append, List.cons_append,
    fixedDigits_cons_lt_iff hyear hyear', fixedDigits_cons_lt_iff hmonth hmonth',
    fixedDigits_append_lt_iff hday hday', hnat, hnat', Date.lt_iff, Date.eq_iff]
  by_cases hxy : x < y
  · simp only [hxy, and_true]
    omega
  · simp only [hxy, and_false, or_false]

theorem Date.bytes_text_lt_iff {a b : Date} (ha : a.InFourDigits) (hb : b.InFourDigits) :
    bytes a.text < bytes b.text ↔ a < b := by
  have h := bytes_text_append_lt_iff ha hb (x := []) (y := [])
  simpa using h

/-! ## Texts of moments -/

/-- The clock has room in its digits, and the fraction in its own. -/
theorem Timestamp.parts_lt (t : Timestamp) : t.hour < 10 ^ 2 ∧ t.minute < 10 ^ 2 ∧
    t.second + t.nanos / 1000000000 < 10 ^ 2 ∧ t.nanos % 1000000000 < 1000000000 := by
  have hhour := t.hour_lt
  have hminute := t.minute_lt
  have hsecond := t.second_lt
  have hnanos := t.nanos_lt
  omega

theorem Timestamp.bytes_text (t : Timestamp) :
    bytes t.text = bytes t.date.text ++ 84 :: (fixedDigits 2 t.hour ++
      58 :: (fixedDigits 2 t.minute ++ 58 :: (fixedDigits 2 (t.second + t.nanos / 1000000000) ++
        Fraction.tail (t.nanos % 1000000000)))) := by
  have hday : bytes "T" = [84] := by decide
  have hcolon : bytes ":" = [58] := by decide
  obtain ⟨hhour, hminute, hsecond, hfraction⟩ := t.parts_lt
  rw [← Fraction.bytes_fractionText hfraction]
  simp only [Timestamp.text, Timestamp.localText, bytes_append, bytes_padded (by decide) hhour,
    bytes_padded (by decide) hminute, bytes_padded (by decide) hsecond, hday, hcolon,
    List.append_assoc, List.singleton_append]
  rfl

/-- The clock as it is shown, with a second 60 in a leap second, counts as the seconds and the
nanoseconds of the moment do. -/
theorem Timestamp.clock_lt_iff (a b : Timestamp) :
    (a.hour < b.hour ∨ a.hour = b.hour ∧ (a.minute < b.minute ∨ a.minute = b.minute ∧
      (a.second + a.nanos / 1000000000 < b.second + b.nanos / 1000000000 ∨
        a.second + a.nanos / 1000000000 = b.second + b.nanos / 1000000000 ∧
          a.nanos % 1000000000 < b.nanos % 1000000000))) ↔
    a.secondOfDay < b.secondOfDay ∨ a.secondOfDay = b.secondOfDay ∧ a.nanos < b.nanos := by
  have hminute := a.minute_lt
  have hminute' := b.minute_lt
  have hsecond := a.second_lt
  have hsecond' := b.second_lt
  have hnanos := a.nanos_lt
  have hnanos' := b.nanos_lt
  have hleap := a.leap
  have hleap' := b.leap
  -- Only second 59 can run on, so a second 60 never meets a later second of its minute.
  unfold secondOfDay
  omega

/-- **The texts of moments stand in the order of time**, leap seconds included. -/
theorem Timestamp.bytes_text_lt_iff {a b : Timestamp} (ha : a.date.InFourDigits)
    (hb : b.date.InFourDigits) : bytes a.text < bytes b.text ↔ a < b := by
  obtain ⟨hhour, hminute, hsecond, hfraction⟩ := a.parts_lt
  obtain ⟨hhour', hminute', hsecond', hfraction'⟩ := b.parts_lt
  rw [a.bytes_text, b.bytes_text, Date.bytes_text_append_lt_iff ha hb, List.cons_lt_cons_iff,
    fixedDigits_cons_lt_iff hhour hhour', fixedDigits_cons_lt_iff hminute hminute',
    fixedDigits_append_lt_iff hsecond hsecond', Fraction.tail_lt_iff hfraction hfraction',
    Timestamp.clock_lt_iff, Timestamp.lt_iff]
  simp

/-! ## Comparisons of stored texts -/

section

variable {α : Type} [LT α]

/-- What a relation says of a column's value and the one it is compared with. -/
def Comparison.Holds : Comparison → α → α → Prop
  | .eq, a, b => a = b
  | .gt, a, b => b < a
  | .gte, a, b => b < a ∨ a = b
  | .lt, a, b => a < b
  | .lte, a, b => a < b ∨ a = b

/-- What a database makes of the symbol between two values. -/
def SymbolHolds (symbol : String) (a b : α) : Prop :=
  match symbol with
  | "=" => a = b
  | ">" => b < a
  | ">=" => b < a ∨ a = b
  | "<" => a < b
  | "<=" => a < b ∨ a = b
  | _ => False

theorem symbolHolds_iff (relation : Comparison) (a b : α) :
    SymbolHolds relation.symbol a b ↔ relation.Holds a b := by
  cases relation <;> exact Iff.rfl

/-- A relation says the same of values and of what stands for them, if that keeps the order. -/
theorem Comparison.holds_iff_of_lt_iff {β : Type} [LT β] {f : α → β} {a b : α}
    (hlt : f a < f b ↔ a < b) (hgt : f b < f a ↔ b < a) (heq : f a = f b ↔ a = b)
    (relation : Comparison) : relation.Holds (f a) (f b) ↔ relation.Holds a b := by
  cases relation with
  | eq => exact heq
  | gt => exact hgt
  | gte => exact or_congr hgt heq
  | lt => exact hlt
  | lte => exact or_congr hlt heq

/-- A column of bound values answers for the values themselves. -/
structure SqlValue.StandsFor (value : α → SqlValue) (a b : α) : Prop where
  /-- What is stored, and what is handed over for the parameter, is the displayed text. -/
  bound : (value a).bound = .text (value a).display ∧ (value b).bound = .text (value b).display
  /-- The texts stand in the order of the values. -/
  lt_iff : bytes (value a).display < bytes (value b).display ↔ a < b
  /-- Two values never share a text. -/
  distinct : a ≠ b → (value a).display ≠ (value b).display
  /-- A relation is asked with its symbol, and with the value as the only parameter. -/
  asked : ∀ d target (relation : Comparison),
    predicate? d target (.compare relation) (.scalar (value b)) =
      some ⟨d.column target ++ " " ++ relation.symbol ++ " ?", [value b]⟩
  /-- The symbol holds of the texts exactly if the relation does of the values. -/
  answers : ∀ relation : Comparison,
    SymbolHolds relation.symbol (bytes (value a).display) (bytes (value b).display) ↔
      relation.Holds a b

theorem SqlValue.standsFor_of_lt_iff {value : α → SqlValue} {a b : α}
    (hbound : ∀ x, (value x).bound = .text (value x).display)
    (hlt : bytes (value a).display < bytes (value b).display ↔ a < b)
    (hgt : bytes (value b).display < bytes (value a).display ↔ b < a)
    (htrichotomy : a < b ∨ a = b ∨ b < a) : StandsFor value a b := by
  have hsame : bytes (value a).display = bytes (value b).display ↔ a = b := by
    constructor
    · intro h
      rw [h] at hlt hgt
      rcases htrichotomy with hab | rfl | hba
      · exact absurd (hlt.mpr hab) (List.lt_irrefl _)
      · rfl
      · exact absurd (hgt.mpr hba) (List.lt_irrefl _)
    · rintro rfl
      rfl
  exact
    { bound := ⟨hbound a, hbound b⟩
      lt_iff := hlt
      distinct := fun hne htext => hne (hsame.mp (congrArg bytes htext))
      asked := fun _ _ _ => rfl
      answers := fun relation => (symbolHolds_iff relation _ _).trans
        (Comparison.holds_iff_of_lt_iff (f := fun x => bytes (value x).display)
          hlt hgt hsame relation) }

end

/-- **Stored dates and moments compare as time goes**, in the years that take four digits. -/
theorem SqlValue.texts_stand_for_time :
    (∀ a b : Date, a.InFourDigits → b.InFourDigits → StandsFor SqlValue.date a b) ∧
    (∀ a b : Timestamp, a.date.InFourDigits → b.date.InFourDigits →
      StandsFor SqlValue.timestamp a b) := by
  constructor
  · intro a b ha hb
    exact standsFor_of_lt_iff (fun _ => rfl) (Date.bytes_text_lt_iff ha hb)
      (Date.bytes_text_lt_iff hb ha) (Date.lt_trichotomy a b)
  · intro a b ha hb
    exact standsFor_of_lt_iff (fun _ => rfl) (Timestamp.bytes_text_lt_iff ha hb)
      (Timestamp.bytes_text_lt_iff hb ha) (Timestamp.lt_trichotomy a b)

/-- The last day of a year that ended with a leap second. -/
def leapDay : Date := ⟨2016, 12, 31, by decide, by decide⟩

/-- The day after it. -/
def newYearsDay : Date := ⟨2017, 1, 1, by decide, by decide⟩

/-- A moment in the last second before the leap second. -/
def beforeLeap : Timestamp :=
  ⟨leapDay, 23, 59, 59, 999999000, by decide, by decide, by decide, by decide, by decide⟩

/-- A moment in the middle of the leap second. -/
def inLeap : Timestamp :=
  ⟨leapDay, 23, 59, 59, 1500000000, by decide, by decide, by decide, by decide, by decide⟩

/-- Six digits before the leap second, three within it, and a day that begins a year. -/
theorem SqlValue.texts_stand_for_time_leapSecond :
    leapDay.InFourDigits ∧ newYearsDay.InFourDigits ∧
      StandsFor SqlValue.date leapDay newYearsDay ∧
      StandsFor SqlValue.timestamp beforeLeap inLeap ∧
      (SqlValue.timestamp beforeLeap).display = "2016-12-31T23:59:59.999999+00:00" ∧
      (SqlValue.timestamp inLeap).display = "2016-12-31T23:59:60.500+00:00" := by
  have hleap : leapDay.InFourDigits := by decide
  have hnew : newYearsDay.InFourDigits := by decide
  refine ⟨hleap, hnew, texts_stand_for_time.1 _ _ hleap hnew,
    texts_stand_for_time.2 _ _ hleap hleap, ?_, ?_⟩
  · decide +kernel
  · decide +kernel

end SqlFilter
