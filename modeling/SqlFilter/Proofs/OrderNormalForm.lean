import SqlFilter.Proofs.Order
import SqlFilter.Proofs.Spelling

/-!
# Accepted sort requests in their normal form

The guard does not only refuse requests, it also rewrites the ones that it accepts: a column comes
out in small letters and a direction as one of two words.  `Order.text` writes an accepted request
down again.  That is its normal form, and the guard leaves it as it is.

The guard changes no plain column and refuses none.  Its first two checks look for denied signs,
of which a plain column has none, and for denied words that stand by themselves.  In a column all
of whose characters are word characters a word can only begin at the start and end at the end, so
that nothing but a statement word as the whole column is refused.

## Main results

* `Order.looksInjected_iff_of_plain`: what is denied in a text of plain characters.
* `Order.guardColumn?_of_plain`, `Order.guard?_of_spells`: plain columns are accepted as they are.
* `Order.guard_keeps_normal_forms`.
-/

namespace SqlFilter

namespace Order

/-! ## Plain characters -/

theorem IsPlainRest.isAscii {c : Char} (h : IsPlainRest c) : Text.isAscii c = true := by
  have hle : c ≤ 'z' := by
    rcases h with h | h | rfl
    · exact h.2
    · exact Char.le_trans h.2 (by decide)
    · decide
  have hnat : c.toNat ≤ 'z'.toNat := UInt32.le_iff_toNat_le.mp (Char.le_def.mp hle)
  rw [Text.isAscii, decide_eq_true_iff]
  exact Nat.lt_of_le_of_lt hnat (by decide)

/-- What holds of the plain ones among the first 128 characters holds of every plain one. -/
theorem IsPlainRest.elim {p : Char → Prop}
    (h : ∀ n : Fin 128, IsPlainRest (Char.ofNat n) → p (Char.ofNat n)) {c : Char}
    (hc : IsPlainRest c) : p c :=
  Text.forall_ascii (p := fun c => IsPlainRest c → p c) h hc.isAscii hc

theorem IsPlainRest.settled {c : Char} (h : IsPlainRest c) : Settled c :=
  h.elim (p := fun c => c.isUpper = false ∧ c ≠ '-' ∧ c ≠ ' ') (by decide +kernel)

/-! ## What is denied in plain text -/

/-- No plain character is a denied sign, and each is a word character. -/
theorem IsPlainRest.allowed {c : Char} (h : IsPlainRest c) :
    deniedSigns.contains c = false ∧ (c == '-') = false ∧ Text.isWord c = true :=
  h.elim (p := fun c => deniedSigns.contains c = false ∧ (c == '-') = false ∧
    Text.isWord c = true) (by decide +kernel)

/-- A plain character is a small letter only of itself. -/
theorem IsPlainRest.eq_of_foldsTo {c letter : Char} (h : IsPlainRest c)
    (hfolds : foldsTo c letter = true) : c = letter := by
  have hsame : c.toLower = c ∧ c ≠ 'ſ' ∧ c ≠ '\u212a' :=
    h.elim (p := fun c => c.toLower = c ∧ c ≠ 'ſ' ∧ c ≠ '\u212a') (by decide +kernel)
  simpa [foldsTo, hsame.1, hsame.2.1, hsame.2.2] using hfolds

theorem eq_append_of_afterWord? {word text rest : List Char} (h : ∀ c ∈ text, IsPlainRest c)
    (hafter : afterWord? word text = some rest) : text = word ++ rest := by
  induction word generalizing text with
  | nil =>
      rw [afterWord?] at hafter
      exact Option.some.inj hafter
  | cons letter word ih =>
      cases text with
      | nil => cases hafter
      | cons c text =>
          rw [List.forall_mem_cons] at h
          rw [afterWord?] at hafter
          split at hafter
          · rename_i hfolds
            rw [h.1.eq_of_foldsTo hfolds, ih h.2 hafter, List.cons_append]
          · cases hafter

/-- A word that stands by itself at the start of a plain text is the whole text. -/
theorem eq_of_startsWithWord {text : List Char} {word : String} (h : ∀ c ∈ text, IsPlainRest c)
    (hstarts : startsWithWord text word = true) : text = word.toList := by
  unfold startsWithWord at hstarts
  split at hstarts
  · cases hstarts
  · rename_i rest hafter
    have htext := eq_append_of_afterWord? h hafter
    cases rest with
    | nil => rw [htext, List.append_nil]
    | cons c rest =>
        have hc : c ∈ text := by
          rw [htext]
          exact List.mem_append_right _ List.mem_cons_self
        simp [(h c hc).allowed.2.2] at hstarts

/-- Behind a word character, nothing is denied in a plain text. -/
theorem deniedFrom_eq_false {text : List Char} (h : ∀ c ∈ text, IsPlainRest c) :
    deniedFrom true text = false := by
  induction text with
  | nil => rfl
  | cons c rest ih =>
      rw [List.forall_mem_cons] at h
      obtain ⟨hsign, hhyphen, hword⟩ := h.1.allowed
      rw [deniedFrom, hsign, hhyphen, hword, ih h.2]
      rfl

/-- **Nothing is denied in a plain text but a statement word that is all of it.** -/
theorem looksInjected_iff_of_plain {text : String} (h : ∀ c ∈ text.toList, IsPlainRest c) :
    looksInjected text = true ↔ text ∈ statementWords := by
  constructor
  · intro hdenied
    unfold looksInjected at hdenied
    cases hchars : text.toList with
    | nil =>
        rw [hchars] at hdenied
        cases hdenied
    | cons c rest =>
        rw [hchars] at h hdenied
        have hplain := h
        rw [List.forall_mem_cons] at h
        obtain ⟨hsign, hhyphen, hword⟩ := h.1.allowed
        rw [deniedFrom, hsign, hhyphen, hword, deniedFrom_eq_false h.2] at hdenied
        simp only [Bool.false_and, Bool.false_or, Bool.not_false, Bool.true_and, Bool.or_false,
          List.any_eq_true, deniedWords_eq] at hdenied
        obtain ⟨word, hmem, hstarts⟩ := hdenied
        have heq := eq_of_startsWithWord hplain hstarts
        rw [← hchars, String.toList_inj] at heq
        exact heq ▸ hmem
  · exact looksInjected_of_mem_statementWords text

/-! ## Plain columns are accepted as they are -/

theorem IsPlainColumn.plain {column : String} (h : IsPlainColumn column) :
    ∀ c ∈ column.toList, IsPlainRest c := by
  obtain ⟨c, cs, hchars, hstart, hrest⟩ := h.identifier
  rw [hchars, List.forall_mem_cons]
  exact ⟨hstart.imp id .inr, hrest⟩

theorem IsPlainRest.isAsciiWord {c : Char} (h : IsPlainRest c) : Text.isAsciiWord c = true :=
  h.elim (p := fun c => Text.isAsciiWord c = true) (by decide +kernel)

theorem IsPlainStart.beginsIdentifier {c : Char} (h : IsPlainStart c) :
    beginsIdentifier c = true := by
  rw [Order.beginsIdentifier, Bool.or_eq_true, beq_iff_eq]
  refine h.imp (fun hsmall => ?_) id
  have hrange : (c.isUpper || decide ('a' ≤ c) && decide (c ≤ 'z')) = true := by
    rw [decide_eq_true hsmall.1, decide_eq_true hsmall.2, Bool.and_self, Bool.or_true]
  exact hrange

theorem IsPlainColumn.isIdentifier {column : String} (h : IsPlainColumn column) :
    isIdentifier column = true := by
  obtain ⟨c, cs, hchars, hstart, hrest⟩ := h.identifier
  have hword : cs.all Text.isAsciiWord = true :=
    List.all_eq_true.mpr fun d hd => (hrest d hd).isAsciiWord
  unfold Order.isIdentifier
  rw [hchars]
  simp only [hstart.beginsIdentifier, hword, Bool.and_self]

/-- A plain column is accepted, and nothing is changed in it. -/
theorem guardColumn?_of_plain {column : String} (h : IsPlainColumn column) :
    guardColumn? column = some column := by
  have hallowed : looksInjected column = false := by
    rw [Bool.eq_false_iff, Ne, looksInjected_iff_of_plain h.plain]
    exact h.allowed
  have hcolumn : snakeCase column = column :=
    snakeCase_eq_self (fun c hc => (h.plain c hc).isAscii) fun c hc => (h.plain c hc).settled
  unfold guardColumn?
  simp [hcolumn, hallowed, h.isIdentifier]

/-! ## Requests with blanks -/

/-- The text is a request for the column in the direction, with blanks anywhere around the text,
the column and the direction, and with the direction in any case. -/
def Spells (raw column : String) (direction : Direction) : Prop :=
  ∃ before left right gap after word : String,
    (∀ blanks ∈ [before, left, right, gap, after], Text.isBlankText blanks = true) ∧
      Text.asciiLower word = direction.name ∧
      raw = before ++ "order[" ++ left ++ column ++ right ++ "]=" ++ gap ++ word ++ after

theorem IsPlainRest.not_blank {c : Char} (h : IsPlainRest c) : Text.isBlank c = false :=
  h.elim (p := fun c => Text.isBlank c = false) (by decide +kernel)

/-- A character whose small form is plain is no blank and no equals sign. -/
theorem not_blank_of_toLower {c : Char} (h : IsPlainRest c.toLower) :
    Text.isBlank c = false ∧ c ≠ '=' := by
  cases hcapital : c.isUpper with
  | false =>
      rw [Text.toLower_eq_self hcapital] at h
      exact ⟨h.not_blank, by rintro rfl; exact absurd h (by decide)⟩
  | true =>
      have hascii : Text.isAscii c = true := by
        rw [Text.isUpper_iff_toNat] at hcapital
        rw [Text.isAscii, decide_eq_true_iff]
        omega
      exact Text.forall_ascii (p := fun c => IsPlainRest c.toLower → Text.isBlank c = false ∧ c ≠ '=')
        (by decide +kernel) hascii h

/-- The letters of a direction, however they are written. -/
theorem letters_of_asciiLower {word : String} {direction : Direction}
    (h : Text.asciiLower word = direction.name) :
    word ≠ "" ∧ ∀ c ∈ word.toList, Text.isBlank c = false ∧ c ≠ '=' := by
  have hname : direction.name ≠ "" ∧ ∀ c ∈ direction.name.toList, IsPlainRest c := by
    have hplain : direction.name.toList.all (decide <| IsPlainRest ·) = true := by
      cases direction <;> decide
    refine ⟨by cases direction <;> decide, fun c hc => ?_⟩
    exact of_decide_eq_true (List.all_eq_true.mp hplain c hc)
  have hchars : word.toList.map Char.toLower = direction.name.toList := by
    rw [← h, Text.asciiLower, String.toList_ofList]
  constructor
  · rintro rfl
    exact hname.1 (by rw [← h]; rfl)
  · intro c hc
    exact not_blank_of_toLower (hname.2 _ (hchars ▸ List.mem_map_of_mem hc))

/-- A plain column between blanks is trimmed to the column, and closes no bracket. -/
theorem IsPlainColumn.between {left column right : String} (h : IsPlainColumn column)
    (hleft : Text.isBlankText left = true) (hright : Text.isBlankText right = true) :
    Text.trim (left ++ column ++ right) = column ∧ ']' ∉ (left ++ column ++ right).toList ∧
      left ++ column ++ right ≠ "" := by
  refine ⟨?_, ?_, ?_⟩
  · exact Text.trim_between hleft hright
      (Text.trim_eq_self_of_no_blank fun c hc => (h.plain c hc).not_blank)
  · simp only [String.toList_append, List.mem_append, not_or]
    exact ⟨⟨Text.notMem_of_isBlankText hleft (by decide), h.notMem (by decide)⟩,
      Text.notMem_of_isBlankText hright (by decide)⟩
  · obtain ⟨c, cs, hchars, -⟩ := h.identifier
    intro hempty
    have hnone := congrArg String.toList hempty
    simp [hchars] at hnone

/-- A direction behind blanks is trimmed to the direction, holds no equals sign, and is more than
blanks. -/
theorem direction_behind {gap word : String} {direction : Direction}
    (hgap : Text.isBlankText gap = true) (h : Text.asciiLower word = direction.name) :
    Text.trim (gap ++ word) = word ∧ '=' ∉ (gap ++ word).toList ∧
      Text.isBlankText (gap ++ word) = false := by
  obtain ⟨hne, hletters⟩ := letters_of_asciiLower h
  have htrim : Text.trim (gap ++ word) = word := by
    have hempty : Text.isBlankText "" = true := rfl
    have hbetween := Text.trim_between hgap hempty
      (Text.trim_eq_self_of_no_blank fun c hc => (hletters c hc).1)
    rwa [String.append_empty] at hbetween
  refine ⟨htrim, ?_, ?_⟩
  · simp only [String.toList_append, List.mem_append, not_or]
    exact ⟨Text.notMem_of_isBlankText hgap (by decide), fun hmem => (hletters _ hmem).2 rfl⟩
  · rw [Bool.eq_false_iff, Ne, Text.isBlankText_iff, htrim]
    exact hne

/-- **A request for a plain column is accepted as it is meant**, whatever blanks stand around and
however the direction is written. -/
theorem guard?_of_spells {raw column : String} {direction : Direction}
    (hcolumn : IsPlainColumn column) (h : Spells raw column direction) :
    guard? raw = some ⟨column, direction⟩ := by
  obtain ⟨before, left, right, gap, after, word, hblanks, hword, rfl⟩ := h
  simp only [List.forall_mem_cons] at hblanks
  obtain ⟨hbefore, hleft, hright, hgap, hafter, -⟩ := hblanks
  obtain ⟨hcolumnTrim, hopen, hfull⟩ := hcolumn.between hleft hright
  obtain ⟨hwordTrim, hfree, hmore⟩ := direction_behind hgap hword
  have hparse := parse?_between hbefore hafter hfull hopen hmore hfree
  have hdirection : Direction.ofText? word = some direction := by
    rw [Direction.ofText?_eq_some_iff, ← hword, ← hwordTrim, Text.trim_trim]
  simp only [hcolumnTrim, hwordTrim, ← String.append_assoc] at hparse
  unfold guard?
  simp only [hparse, guardColumn?_of_plain hcolumn, hdirection]

/-! ## Normal forms -/

/-- A small ASCII letter or an ASCII digit. -/
def IsSmallOrDigit (c : Char) : Prop := ('a' ≤ c ∧ c ≤ 'z') ∨ ('0' ≤ c ∧ c ≤ '9')

instance : DecidablePred IsSmallOrDigit := fun c =>
  inferInstanceAs (Decidable (('a' ≤ c ∧ c ≤ 'z') ∨ ('0' ≤ c ∧ c ≤ '9')))

theorem IsSmallOrDigit.plain {c : Char} (h : IsSmallOrDigit c) : IsPlainRest c := h.imp id .inl

/-- What may follow a small letter or digit in a canonical name: more of them, and underscores
that one of them follows. -/
inductive Continues : List Char → Prop
  | done : Continues []
  | char {c : Char} {rest : List Char} (hc : IsSmallOrDigit c) (hrest : Continues rest) :
      Continues (c :: rest)
  | bar {c : Char} {rest : List Char} (hc : IsSmallOrDigit c) (hrest : Continues rest) :
      Continues ('_' :: c :: rest)

/-- A canonical column, `[a-z][a-z0-9]*(_[a-z0-9]+)*`, that is none of the statement words. -/
structure IsCanonical (column : String) : Prop where
  spelled : ∃ c cs, column.toList = c :: cs ∧ ('a' ≤ c ∧ c ≤ 'z') ∧ Continues cs
  allowed : column ∉ statementWords

theorem Continues.plain {cs : List Char} (h : Continues cs) : ∀ c ∈ cs, IsPlainRest c := by
  induction h with
  | done => exact List.forall_mem_nil _
  | char hc hrest ih => exact List.forall_mem_cons.mpr ⟨hc.plain, ih⟩
  | bar hc hrest ih =>
      exact List.forall_mem_cons.mpr ⟨.inr (.inr rfl), List.forall_mem_cons.mpr ⟨hc.plain, ih⟩⟩

theorem IsCanonical.isPlainColumn {column : String} (h : IsCanonical column) :
    IsPlainColumn column := by
  obtain ⟨c, cs, hchars, hletter, hrest⟩ := h.spelled
  exact ⟨⟨c, cs, hchars, .inl hletter, hrest.plain⟩, h.allowed⟩

/-- An accepted request, written down. -/
def text (order : Order) : String := "order[" ++ order.column ++ "]=" ++ order.direction.name

theorem spells_text (order : Order) : Spells order.text order.column order.direction := by
  refine ⟨"", "", "", "", "", order.direction.name, ?_, ?_, ?_⟩
  · simp [Text.isBlankText]
  · cases order.direction <;> decide
  · simp [text]

/-- **The guard changes no normal form.**  A request for a canonical column is accepted for that
column, whatever blanks stand around and however the direction is written; and what was accepted
for any request at all is accepted again, just as it came out. -/
theorem guard_keeps_normal_forms :
    (∀ raw column direction, IsCanonical column → Spells raw column direction →
      guard? raw = some ⟨column, direction⟩) ∧
    ∀ raw order, guard? raw = some order → guard? order.text = some order := by
  constructor
  · intro raw column direction hcolumn hspells
    exact guard?_of_spells hcolumn.isPlainColumn hspells
  · intro raw order haccepted
    exact guard?_of_spells (request_of_guard? haccepted).2 (spells_text order)

theorem guard_keeps_normal_forms_selectCount :
    IsCanonical "select_count" ∧ Spells "\torder[\u3000select_count ]= DeSC\n" "select_count" .desc ∧
      guard? "\torder[\u3000select_count ]= DeSC\n" = some ⟨"select_count", .desc⟩ ∧
      guard? "order[ \u212aelvinTemp ]=ASC" = some ⟨"kelvin_temp", .asc⟩ ∧
      guard? "order[kelvin_temp]=asc" = some ⟨"kelvin_temp", .asc⟩ := by
  have hcanonical : IsCanonical "select_count" := by
    refine ⟨⟨'s', "elect_count".toList, by decide, by decide, ?_⟩, by decide⟩
    exact .char (by decide) <| .char (by decide) <| .char (by decide) <| .char (by decide) <|
      .char (by decide) <| .bar (by decide) <| .char (by decide) <| .char (by decide) <|
      .char (by decide) <| .char (by decide) .done
  have hspells : Spells "\torder[\u3000select_count ]= DeSC\n" "select_count" .desc :=
    ⟨"\t", "\u3000", " ", " ", "\n", "DeSC", by decide, by decide, by decide⟩
  have haccepted : guard? "order[ \u212aelvinTemp ]=ASC" = some ⟨"kelvin_temp", .asc⟩ := by
    decide +kernel
  have hagain := guard_keeps_normal_forms.2 _ _ haccepted
  have htext : text ⟨"kelvin_temp", .asc⟩ = "order[kelvin_temp]=asc" := by decide
  rw [htext] at hagain
  exact ⟨hcanonical, hspells, guard_keeps_normal_forms.1 _ _ _ hcanonical hspells, haccepted,
    hagain⟩

end Order

end SqlFilter
