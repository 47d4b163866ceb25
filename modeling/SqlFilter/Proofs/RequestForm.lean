import SqlFilter.Order
import SqlFilter.Proofs.Text.Parts

/-!
# The form of a sort request

A request is read exactly if it has the form `order[column]=direction`.  The column ends at the
first closing bracket, and the direction holds no equals sign, so that a text has the form in one
way at most.  Nothing else is asked of the two parts: brackets that open, equals signs and line
ends may stand in a column, and brackets of either kind in a direction.

Blanks are dropped three times, around the request and around each of its parts.  A direction of
blanks alone is dropped with those around the request and is missing then, while a column of
blanks alone is read, as an empty one.

## Main results

* `Order.IsRequest`: a text of the form, and its two parts.
* `Order.splitRequest?_trim_iff`, `Order.parse?_eq_some_iff`: what is read, and as what.
* `Order.parse?_between`: requests with blanks around them.
* `Order.reads_form_in_one_way`.
-/

namespace SqlFilter

namespace Order

/-! ## Taking a request apart -/

theorem afterPrefix?_eq_some_iff {start text rest : List Char} :
    afterPrefix? start text = some rest ↔ text = start ++ rest := by
  induction start generalizing text with
  | nil => simp [afterPrefix?, eq_comm]
  | cons p ps ih =>
      cases text with
      | nil => simp [afterPrefix?]
      | cons c cs =>
          unfold afterPrefix?
          by_cases h : p = c
          · rw [if_pos h, ih, h, List.cons_append]
            exact ⟨fun he => by rw [he], fun he => (List.cons.inj he).2⟩
          · rw [if_neg h]
            constructor
            · intro he
              cases he
            · intro he
              exact absurd (List.cons.inj he).1.symm h

/-- A text is split exactly if it reads `order[column]=direction`, with a column that holds no `]`
and a direction that holds no `=`, neither of them empty. -/
theorem splitRequest?_eq_some_iff {text column direction : List Char} :
    splitRequest? text = some (column, direction) ↔
      text = "order[".toList ++ (column ++ ']' :: '=' :: direction) ∧ ']' ∉ column ∧
        '=' ∉ direction ∧ column ≠ [] ∧ direction ≠ [] := by
  unfold splitRequest?
  constructor
  · intro h
    split at h
    · cases h
    · rename_i rest hrest
      rw [afterPrefix?_eq_some_iff] at hrest
      split at h
      · rename_i before after hcut
        rw [Text.cutChars_eq_some_iff] at hcut
        split at h
        · cases h
        · rename_i hparts
          cases h
          rw [not_or, not_or] at hparts
          exact ⟨by rw [hrest, hcut.1], hcut.2, hparts.2.2, hparts.1, hparts.2.1⟩
      · cases h
  · rintro ⟨rfl, hcolumn, hdirection, hne, hne'⟩
    have hafter : afterPrefix? "order[".toList
        ("order[".toList ++ (column ++ ']' :: '=' :: direction)) =
          some (column ++ ']' :: '=' :: direction) := afterPrefix?_eq_some_iff.mpr rfl
    have hcut : Text.cutChars ']' (column ++ ']' :: '=' :: direction) =
        some (column, '=' :: direction) := Text.cutChars_eq_some_iff.mpr ⟨rfl, hcolumn⟩
    simp only [hafter, hcut]
    rw [if_neg]
    simp [hne, hne', hdirection]

/-! ## Requests -/

/-- The text, without the blanks around it, reads `order[column]=direction`.  Neither part is
empty, the column holds no closing bracket, and the direction holds no equals sign. -/
structure IsRequest (raw column direction : String) : Prop where
  text : Text.trim raw = "order[" ++ column ++ "]=" ++ direction
  column_ne_empty : column ≠ ""
  column_open : ']' ∉ column.toList
  direction_ne_empty : direction ≠ ""
  direction_free : '=' ∉ direction.toList

/-- A text is split into two parts exactly if it is a request for them. -/
theorem splitRequest?_trim_iff {raw column direction : String} :
    splitRequest? (Text.trimChars raw.toList) = some (column.toList, direction.toList) ↔
      IsRequest raw column direction := by
  have htext : Text.trimChars raw.toList =
      "order[".toList ++ (column.toList ++ ']' :: '=' :: direction.toList) ↔
        Text.trim raw = "order[" ++ column ++ "]=" ++ direction := by
    rw [← String.toList_inj, Text.toList_trim]
    simp
  rw [splitRequest?_eq_some_iff, htext]
  constructor
  · rintro ⟨htext, hopen, hfree, hcolumn, hdirection⟩
    exact ⟨htext, by simpa using hcolumn, hopen, by simpa using hdirection, hfree⟩
  · intro h
    exact ⟨h.text, h.column_open, h.direction_free, by simpa using h.column_ne_empty,
      by simpa using h.direction_ne_empty⟩

/-- A text is a request in one way only. -/
theorem IsRequest.unique {raw column direction column' direction' : String}
    (h : IsRequest raw column direction) (h' : IsRequest raw column' direction') :
    column = column' ∧ direction = direction' := by
  have hsplit := splitRequest?_trim_iff.mpr h
  rw [splitRequest?_trim_iff.mpr h', Option.some.injEq, Prod.mk.injEq, String.toList_inj,
    String.toList_inj] at hsplit
  exact ⟨hsplit.1.symm, hsplit.2.symm⟩

/-- **A text is read exactly if it is a request**, and then as its two parts, without the blanks
around them. -/
theorem parse?_eq_some_iff {raw written word : String} :
    parse? raw = some (written, word) ↔
      ∃ column direction, IsRequest raw column direction ∧ written = Text.trim column ∧
        word = Text.trim direction := by
  rw [parse?, Option.map_eq_some_iff]
  constructor
  · rintro ⟨⟨column, direction⟩, hsplit, hparts⟩
    cases hparts
    refine ⟨String.ofList column, String.ofList direction, ?_, ?_, ?_⟩
    · rw [← splitRequest?_trim_iff, String.toList_ofList, String.toList_ofList]
      exact hsplit
    · rw [Text.trim, String.toList_ofList]
    · rw [Text.trim, String.toList_ofList]
  · rintro ⟨column, direction, h, rfl, rfl⟩
    exact ⟨_, splitRequest?_trim_iff.mpr h, rfl⟩

theorem parse?_trim (raw : String) : parse? (Text.trim raw) = parse? raw := by
  rw [parse?, parse?, Text.toList_trim, Text.trimChars_trimChars]

/-! ## Requests with blanks around them -/

/-- A request that does not end in a blank is trimmed. -/
theorem trim_request (column : String) {direction : String}
    (hlast : ∀ c ∈ direction.toList.getLast?, Text.isBlank c = false) :
    Text.trim ("order[" ++ column ++ "]=" ++ direction) =
      "order[" ++ column ++ "]=" ++ direction := by
  rw [Text.trim_eq_self_iff, Text.trimChars_eq_self_iff, String.toList_append]
  constructor
  · intro c hc
    simp only [String.toList_append, List.append_assoc, List.head?_append] at hc
    cases hc
    decide
  · intro c hc
    rw [List.getLast?_append, Option.mem_def, Option.or_eq_some_iff] at hc
    rcases hc with hc | ⟨-, hc⟩
    · exact hlast c hc
    · rw [String.toList_append, List.getLast?_append] at hc
      cases hc
      decide

/-- A text with more than blanks in it ends in blanks behind a sign that is none. -/
theorem exists_blanks_behind {s : String} (h : Text.isBlankText s = false) :
    ∃ body blanks : String, s = body ++ blanks ∧ body ≠ "" ∧
      (∀ c ∈ body.toList.getLast?, Text.isBlank c = false) ∧ Text.isBlankText blanks = true := by
  obtain ⟨cs, rfl⟩ : ∃ cs, s = String.ofList cs := ⟨s.toList, String.ofList_toList.symm⟩
  induction cs using List.reverseRecOn with
  | nil => cases h
  | append_singleton cs c ih =>
      cases hc : Text.isBlank c with
      | false =>
          refine ⟨String.ofList (cs ++ [c]), "", String.append_empty.symm, by simp, ?_, rfl⟩
          simp [hc]
      | true =>
          have hcs : Text.isBlankText (String.ofList cs) = false := by
            simpa [Text.isBlankText, hc] using h
          obtain ⟨body, blanks, hsplit, hne, hlast, hblanks⟩ := ih hcs
          refine ⟨body, blanks ++ String.ofList [c], ?_, hne, hlast, ?_⟩
          · rw [String.ofList_append, hsplit, String.append_assoc]
          · simp only [Text.isBlankText, String.toList_append, List.all_append,
              String.toList_ofList] at hblanks ⊢
            simp [hblanks, hc]

/-- **Any column without a closing bracket and any direction without an equals sign are read**,
whatever blanks stand around them, as long as there is a column and more than blanks for a
direction. -/
theorem parse?_between {before column direction after : String}
    (hbefore : Text.isBlankText before = true) (hafter : Text.isBlankText after = true)
    (hcolumn : column ≠ "") (hopen : ']' ∉ column.toList)
    (hdirection : Text.isBlankText direction = false) (hfree : '=' ∉ direction.toList) :
    parse? (before ++ "order[" ++ column ++ "]=" ++ direction ++ after) =
      some (Text.trim column, Text.trim direction) := by
  obtain ⟨body, blanks, rfl, hne, hlast, hblanks⟩ := exists_blanks_behind hdirection
  have hbehind : Text.isBlankText (blanks ++ after) = true := by
    simp only [Text.isBlankText, String.toList_append, List.all_append] at hblanks hafter ⊢
    rw [hblanks, hafter, Bool.and_self]
  have htext : Text.trim (before ++ "order[" ++ column ++ "]=" ++ (body ++ blanks) ++ after) =
      "order[" ++ column ++ "]=" ++ body := by
    rw [← Text.trim_between hbefore hbehind (trim_request column hlast)]
    simp only [String.append_assoc]
  have htrim : Text.trim (body ++ blanks) = Text.trim body := by
    rw [← String.toList_inj, Text.toList_trim, Text.toList_trim, String.toList_append,
      Text.trimChars_append_blank (List.all_eq_true.mp hblanks)]
  rw [String.toList_append, List.mem_append, not_or] at hfree
  exact parse?_eq_some_iff.mpr ⟨column, body, ⟨htext, hcolumn, hopen, hne, hfree.1⟩, rfl, htrim⟩

/-! ## What is read -/

/-- **A request is read in exactly one way.**  A text is read exactly if it is a request, and as
the parts of the request, trimmed; no text is a request in two ways; and there is nothing to a
request but its form. -/
theorem reads_form_in_one_way :
    (∀ raw written word, parse? raw = some (written, word) ↔
      ∃ column direction, IsRequest raw column direction ∧ written = Text.trim column ∧
        word = Text.trim direction) ∧
    (∀ raw column direction column' direction', IsRequest raw column direction →
      IsRequest raw column' direction' → column = column' ∧ direction = direction') ∧
    ∀ before column direction after, Text.isBlankText before = true →
      Text.isBlankText after = true → column ≠ "" → ']' ∉ column.toList →
      Text.isBlankText direction = false → '=' ∉ direction.toList →
      parse? (before ++ "order[" ++ column ++ "]=" ++ direction ++ after) =
        some (Text.trim column, Text.trim direction) := by
  refine ⟨fun _ _ _ => parse?_eq_some_iff, fun _ _ _ _ _ h h' => h.unique h', ?_⟩
  intro before column direction after hbefore hafter hcolumn hopen hdirection hfree
  exact parse?_between hbefore hafter hcolumn hopen hdirection hfree

theorem reads_form_in_one_way_openBracket :
    parse? "\u3000order[ x[=\n]= ]de[sc] \t" = some ("x[=", "]de[sc]") ∧
      ∃ column direction, IsRequest "\u3000order[ x[=\n]= ]de[sc] \t" column direction ∧
        "x[=" = Text.trim column ∧ "]de[sc]" = Text.trim direction ∧
        (∀ column' direction', IsRequest "\u3000order[ x[=\n]= ]de[sc] \t" column' direction' →
          column = column' ∧ direction = direction') := by
  obtain ⟨hread, honce, hform⟩ := reads_form_in_one_way
  have hparse := hform "\u3000" " x[=\n" " ]de[sc] " "\t" (by decide) (by decide) (by decide)
    (by decide) (by decide) (by decide)
  have htext : "\u3000" ++ "order[" ++ " x[=\n" ++ "]=" ++ " ]de[sc] " ++ "\t" =
      "\u3000order[ x[=\n]= ]de[sc] \t" := by decide
  have hcolumn : Text.trim " x[=\n" = "x[=" := by decide
  have hdirection : Text.trim " ]de[sc] " = "]de[sc]" := by decide
  rw [htext, hcolumn, hdirection] at hparse
  obtain ⟨column, direction, hrequest, hwritten, hword⟩ := (hread _ _ _).mp hparse
  exact ⟨hparse, column, direction, hrequest, hwritten, hword,
    fun column' direction' h => honce _ _ _ _ _ hrequest h⟩

end Order

end SqlFilter
