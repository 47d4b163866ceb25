import SqlFilter.Proofs.Column
import SqlFilter.Proofs.RequestForm

/-!
# What a sort request can put into a statement

What the guard lets through of a request is a column that is safe to write: an ASCII identifier
without capitals that is none of twelve statement words.  The denylist of the guard holds these
words and no others.

The guard looks at the column twice, as it was written and in small letters.  For the shape of
the accepted column only the second look counts; the first one refuses more requests.

## Main results

* `Order.statementWords`, `Order.deniedWords_eq`: what the guard denies.
* `Order.IsPlainColumn`, `Order.isPlainColumn_of_guardColumn?`.
* `Order.request_of_guard?`: what an accepted request looked like, and what it became.
-/

namespace SqlFilter

/-! ## Directions -/

theorem Direction.ofText?_eq_some_iff {text : String} {direction : Direction} :
    Direction.ofText? text = some direction ↔
      Text.asciiLower (Text.trim text) = direction.name := by
  have hne : ¬ "desc" = "asc" := by decide
  unfold Direction.ofText?
  simp only
  split
  · rename_i h
    rw [h]
    cases direction <;> simp [Direction.name]
  · rename_i hasc
    split
    · rename_i h
      rw [h]
      cases direction <;> simp [Direction.name, hne]
    · rename_i hdesc
      cases direction <;> simp [Direction.name, hasc, hdesc]

namespace Order

/-! ## Accepted columns -/

/-- A small ASCII letter or the underscore. -/
def IsPlainStart (c : Char) : Prop := ('a' ≤ c ∧ c ≤ 'z') ∨ c = '_'

/-- A small ASCII letter, an ASCII digit or the underscore. -/
def IsPlainRest (c : Char) : Prop := ('a' ≤ c ∧ c ≤ 'z') ∨ ('0' ≤ c ∧ c ≤ '9') ∨ c = '_'

/-- The words that no column may be. -/
def statementWords : List String :=
  ["union", "select", "insert", "update", "delete", "drop", "grant", "exec", "create", "alter",
    "truncate", "count"]

/-- The guard denies these words and no others. -/
theorem deniedWords_eq : deniedWords = statementWords := rfl

/-- A column that may be written into a statement: `[a-z_][a-z0-9_]*`, and none of the statement
words. -/
structure IsPlainColumn (column : String) : Prop where
  identifier : ∃ c cs, column.toList = c :: cs ∧ IsPlainStart c ∧ ∀ d ∈ cs, IsPlainRest d
  allowed : column ∉ statementWords

instance : DecidablePred IsPlainRest := fun c =>
  inferInstanceAs (Decidable (('a' ≤ c ∧ c ≤ 'z') ∨ ('0' ≤ c ∧ c ≤ '9') ∨ c = '_'))

/-- No other sign is in a plain column. -/
theorem IsPlainColumn.notMem {column : String} (h : IsPlainColumn column) {sign : Char}
    (hsign : ¬ IsPlainRest sign) : sign ∉ column.toList := by
  obtain ⟨c, cs, hchars, hstart, hrest⟩ := h.identifier
  rw [hchars, List.mem_cons, not_or]
  constructor
  · rintro rfl
    exact hsign (hstart.imp id .inr)
  · intro hmem
    exact hsign (hrest sign hmem)

/-- Every statement word is denied as a column of its own. -/
theorem looksInjected_of_mem_statementWords :
    ∀ word ∈ statementWords, looksInjected word = true := by
  decide +kernel

theorem isSmall_of_isAlpha {c : Char} (h : c.isAlpha = true) (hcapital : c.isUpper = false) :
    'a' ≤ c ∧ c ≤ 'z' := by
  have hletter : (c.isUpper || c.isLower) = true := h
  rw [hcapital, Bool.false_or] at hletter
  have hrange : (decide (c.val ≥ 'a'.val) && decide (c.val ≤ 'z'.val)) = true := hletter
  rw [Bool.and_eq_true, decide_eq_true_iff, decide_eq_true_iff] at hrange
  exact hrange

theorem isPlainStart_of_beginsIdentifier {c : Char} (h : beginsIdentifier c = true)
    (hcapital : c.isUpper = false) : IsPlainStart c := by
  rw [beginsIdentifier, Bool.or_eq_true, beq_iff_eq] at h
  rcases h with h | h
  · exact .inl (isSmall_of_isAlpha h hcapital)
  · exact .inr h

theorem isPlainRest_of_isAsciiWord {c : Char} (h : Text.isAsciiWord c = true)
    (hcapital : c.isUpper = false) : IsPlainRest c := by
  simp only [Text.isAsciiWord, Char.isAlphanum, Bool.or_eq_true, beq_iff_eq] at h
  rcases h with (h | h) | h
  · exact .inl (isSmall_of_isAlpha h hcapital)
  · simp only [Char.isDigit, Bool.and_eq_true, decide_eq_true_eq] at h
    exact .inr (.inl h)
  · exact .inr (.inr h)

/-- An accepted column is the column name of what was written, and it is plain. -/
theorem isPlainColumn_of_guardColumn? {written column : String}
    (h : guardColumn? written = some column) :
    column = snakeCase written ∧ IsPlainColumn column := by
  unfold guardColumn? at h
  split at h
  · cases h
  · simp only at h
    split at h
    · cases h
    · rename_i hchecks
      cases h
      simp only [Bool.or_eq_true, Bool.not_eq_true', not_or, Bool.not_eq_true,
        Bool.not_eq_false] at hchecks
      obtain ⟨hallowed, hidentifier⟩ := hchecks
      have hsmall : ∀ d ∈ (snakeCase written).toList, d.isUpper = false :=
        fun d hd => isUpper_eq_false_of_mem_snakeCase hd
      refine ⟨rfl, ?_, ?_⟩
      · unfold isIdentifier at hidentifier
        split at hidentifier
        · cases hidentifier
        · rename_i c cs hchars
          rw [Bool.and_eq_true, List.all_eq_true] at hidentifier
          rw [hchars] at hsmall
          refine ⟨c, cs, hchars, ?_, ?_⟩
          · exact isPlainStart_of_beginsIdentifier hidentifier.1 (hsmall c List.mem_cons_self)
          · intro d hd
            exact isPlainRest_of_isAsciiWord (hidentifier.2 d hd)
              (hsmall d (List.mem_cons_of_mem _ hd))
      · intro hmem
        rw [looksInjected_of_mem_statementWords _ hmem] at hallowed
        cases hallowed

/-! ## Accepted requests -/

theorem guard?_trim (raw : String) : guard? (Text.trim raw) = guard? raw := by
  rw [guard?, guard?, parse?_trim]

/-- The text asks, in the form `order[...]=...`, for a column in a direction. -/
def Asks (text column : String) (direction : Direction) : Prop :=
  ∃ written word : String,
    Text.trim text = "order[" ++ written ++ "]=" ++ word ∧ ']' ∉ written.toList ∧
      '=' ∉ word.toList ∧ column = snakeCase (Text.trim written) ∧
        Text.asciiLower (Text.trim word) = direction.name

/-- An accepted request asked for its column and direction, and the column is plain. -/
theorem request_of_guard? {raw : String} {order : Order} (h : guard? raw = some order) :
    Asks raw order.column order.direction ∧ IsPlainColumn order.column := by
  unfold guard? at h
  split at h
  · cases h
  · rename_i written word hparse
    split at h
    · rename_i column direction hcolumn hdirection
      cases h
      obtain ⟨c, w, hrequest, rfl, rfl⟩ := parse?_eq_some_iff.mp hparse
      obtain ⟨hsnake, hplain⟩ := isPlainColumn_of_guardColumn? hcolumn
      rw [Direction.ofText?_eq_some_iff, Text.trim_trim] at hdirection
      exact ⟨⟨c, w, hrequest.text, hrequest.column_open, hrequest.direction_free, hsnake,
        hdirection⟩, hplain⟩
    · cases h

end Order

end SqlFilter
