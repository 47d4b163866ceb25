import SqlFilter.Compile.Emission
import SqlFilter.Select

/-!
# Marks and parameters in a statement

A statement grows by pieces of text, some of them with parameters.  `Statement.write` is the one
way in which it grows: the marks of the piece are numbered on from the parameters that are there,
and the piece's own parameters are added.  As long as each piece has as many marks as parameters,
two pieces one after the other are one piece, and so a whole statement is one piece written after
its head: numbering mark by mark while the text grows is the same as numbering them all at the
end.

## Main results

* `Statement.numberMarks_append`, `Statement.exists_pieces`: what numbering does to a text.
* `Statement.write_write`: two balanced pieces are one.
-/

namespace SqlFilter

/-! ## Counting marks -/

/-- How many marks a text holds. -/
def marks (text : String) : Nat := text.toList.count '?'

theorem marks_eq_zero_iff (text : String) : marks text = 0 ↔ '?' ∉ text.toList :=
  List.count_eq_zero

@[simp] theorem marks_append (a b : String) : marks (a ++ b) = marks a + marks b := by
  rw [marks, String.toList_append, List.count_append]
  rfl

/-- How many marks the texts hold together. -/
def totalMarks : List String → Nat
  | [] => 0
  | text :: rest => marks text + totalMarks rest

theorem totalMarks_replicate (n : Nat) (text : String) :
    totalMarks (List.replicate n text) = n * marks text := by
  induction n with
  | zero => rw [List.replicate_zero, totalMarks, Nat.zero_mul]
  | succ n ih => rw [List.replicate_succ, totalMarks, ih, Nat.succ_mul, Nat.add_comm]

theorem totalMarks_eq_zero {texts : List String} (h : ∀ text ∈ texts, marks text = 0) :
    totalMarks texts = 0 := by
  induction texts with
  | nil => rfl
  | cons text rest ih =>
      rw [totalMarks, h text List.mem_cons_self, ih fun t ht => h t (List.mem_cons_of_mem _ ht)]

theorem marks_joinWith {sep : String} (hsep : marks sep = 0) (parts : List String) :
    marks (Text.joinWith sep parts) = totalMarks parts := by
  induction parts with
  | nil => rfl
  | cons part rest ih =>
      cases rest with
      | nil => simp [Text.joinWith, totalMarks]
      | cons next more =>
          rw [Text.joinWith, marks_append, marks_append, hsep, ih, Nat.add_zero]
          · rfl
          · exact List.cons_ne_nil _ _

@[simp] theorem marks_placeholders (n : Nat) : marks (placeholders n) = n := by
  have hsep : marks ", " = 0 := by decide
  have hmark : marks "?" = 1 := by decide
  rw [placeholders, marks_joinWith hsep, totalMarks_replicate, hmark, Nat.mul_one]

/-- A number is written without marks. -/
@[simp] theorem marks_toString (n : Nat) : marks (toString n) = 0 := by
  rw [marks_eq_zero_iff]
  intro h
  have hdigits : (toString n).toList = Nat.toDigits 10 n := by
    rw [Nat.toString_eq_repr, Nat.repr, String.toList_ofList]
  rw [hdigits] at h
  exact absurd (Nat.isDigit_of_mem_toDigits (by decide) (by decide) h) (by decide)

@[simp] theorem marks_quote (d : Dialect) (ident : String) : marks (d.quote ident) = marks ident := by
  have htick : marks "\x60" = 0 := by decide
  cases d with
  | mysql => simp [Dialect.quote, htick]
  | postgres => rfl

@[simp] theorem marks_qualify (d : Dialect) (table column : String) :
    marks (d.qualify table column) = marks table + marks column := by
  have hdot : marks "." = 0 := by decide
  simp [Dialect.qualify, hdot]

@[simp] theorem marks_qualifyAll (d : Dialect) (table : String) :
    marks (d.qualifyAll table) = marks table := by
  have hall : marks ".*" = 0 := by decide
  simp [Dialect.qualifyAll, hall]

@[simp] theorem marks_limitOffset (limit offset : UInt64) :
    marks (Dialect.limitOffset limit offset) = 0 := by
  have hlimit : marks "LIMIT " = 0 := by decide
  have hoffset : marks " OFFSET " = 0 := by decide
  rw [Dialect.limitOffset, marks_append, marks_append, marks_append, hlimit, hoffset,
    marks_toString, marks_toString]

/-! ## Numbering -/

namespace Statement

theorem numberMarks_append (d : Dialect) (a b : List Char) : ∀ index : Nat,
    numberMarks d index (a ++ b) =
      numberMarks d index a ++ numberMarks d (index + a.count '?') b := by
  induction a with
  | nil =>
      intro index
      simp [numberMarks]
  | cons c rest ih =>
      intro index
      rw [List.cons_append, numberMarks, numberMarks]
      by_cases hc : c = '?'
      · rw [if_pos hc, if_pos hc, ih, hc, List.count_cons_self, String.append_assoc]
        congr 3
        omega
      · rw [if_neg hc, if_neg hc, ih, List.count_cons_of_ne hc, String.append_assoc]

/-- A text without marks is written as it is. -/
theorem numberMarks_of_notMem (d : Dialect) {cs : List Char} (h : '?' ∉ cs) : ∀ index : Nat,
    numberMarks d index cs = String.ofList cs := by
  induction cs with
  | nil =>
      intro index
      rfl
  | cons c rest ih =>
      intro index
      rw [List.mem_cons, not_or] at h
      have hc : ¬ c = '?' := fun he => h.1 he.symm
      rw [numberMarks, if_neg hc, ih h.2, ← String.toList_inj]
      simp [Char.toString]

/-- MySQL's marks are all alike, so numbering leaves a text as it is. -/
theorem numberMarks_mysql (cs : List Char) : ∀ index : Nat,
    numberMarks .mysql index cs = String.ofList cs := by
  induction cs with
  | nil =>
      intro index
      rfl
  | cons c rest ih =>
      intro index
      rw [numberMarks, ih, ih, ← String.toList_inj]
      by_cases hc : c = '?'
      · simp [hc, Dialect.placeholder]
      · simp [hc, Char.toString]

/-- Texts without marks before and after are written as they are. -/
theorem numberMarks_between (d : Dialect) {before after : String} (hbefore : marks before = 0)
    (hafter : marks after = 0) (text : String) :
    numberMarks d 0 (before ++ text ++ after).toList =
      before ++ numberMarks d 0 text.toList ++ after := by
  have hfront := (marks_eq_zero_iff before).mp hbefore
  have hback := (marks_eq_zero_iff after).mp hafter
  rw [String.toList_append, String.toList_append, numberMarks_append, numberMarks_append,
    numberMarks_of_notMem d hfront, numberMarks_of_notMem d hback, List.count_eq_zero.mpr hfront,
    String.ofList_toList, String.ofList_toList]

/-- Pieces of text, each after a mark.  The marks are written by their numbers, and the first of
them has the number `first`. -/
def numbered (mark : Nat → String) (first : Nat) : List String → String
  | [] => ""
  | piece :: rest => mark first ++ piece ++ numbered mark (first + 1) rest

/-- A text is cut at its marks into pieces, which are the same for every dialect. -/
theorem exists_pieces (cs : List Char) : ∃ (opening : String) (pieces : List String),
    marks opening = 0 ∧ (∀ piece ∈ pieces, marks piece = 0) ∧ pieces.length = cs.count '?' ∧
      ∀ (d : Dialect) (index : Nat),
        numberMarks d index cs = opening ++ numbered d.placeholder (index + 1) pieces := by
  induction cs with
  | nil => exact ⟨"", [], rfl, by simp, rfl, fun d index => rfl⟩
  | cons c rest ih =>
      obtain ⟨opening, pieces, hopening, hpieces, hcount, hnumber⟩ := ih
      by_cases hc : c = '?'
      · refine ⟨"", opening :: pieces, rfl, ?_, ?_, ?_⟩
        · intro piece hpiece
          rcases List.mem_cons.mp hpiece with rfl | hpiece
          · exact hopening
          · exact hpieces piece hpiece
        · rw [hc, List.length_cons, hcount, List.count_cons_self]
        · intro d index
          rw [numberMarks, if_pos hc, hnumber, numbered, String.append_assoc, String.empty_append]
      · refine ⟨c.toString ++ opening, pieces, ?_, hpieces, ?_, ?_⟩
        · rw [marks_append, hopening, Nat.add_zero, marks_eq_zero_iff]
          intro hmem
          have hsingle : '?' ∈ [c] := by simpa [Char.toString] using hmem
          exact hc (List.mem_singleton.mp hsingle).symm
        · rw [hcount, List.count_cons_of_ne hc]
        · intro d index
          rw [numberMarks, if_neg hc, hnumber, String.append_assoc]

/-! ## Writing pieces -/

/-- A statement with one more piece of text, whose marks stand for the parameters. -/
def write (d : Dialect) (s : Statement) (text : String) (params : List SqlValue) : Statement :=
  ⟨s.sql ++ numberMarks d s.params.length text.toList, s.params ++ params⟩

theorem appendPredicate_eq_write (d : Dialect) (s : Statement) (p : Predicate) :
    s.appendPredicate d p = s.write d p.fragment p.params := rfl

/-- Two pieces one after the other are one piece, if the first one is balanced. -/
theorem write_write (d : Dialect) (s : Statement) {text : String} {params : List SqlValue}
    (h : marks text = params.length) (text' : String) (params' : List SqlValue) :
    (s.write d text params).write d text' params' =
      s.write d (text ++ text') (params ++ params') := by
  unfold write
  rw [String.toList_append, numberMarks_append, List.length_append, String.append_assoc,
    List.append_assoc, ← h]
  rfl

@[simp] theorem write_empty (d : Dialect) (s : Statement) : s.write d "" [] = s := by
  simp [write, numberMarks]

theorem append_eq_write (d : Dialect) (s : Statement) {text : String} (h : marks text = 0) :
    s.append text = s.write d text [] := by
  rw [marks_eq_zero_iff] at h
  rw [write, numberMarks_of_notMem d h, String.ofList_toList, List.append_nil]
  rfl

end Statement

end SqlFilter
