import SqlFilter.Proofs.Column
import SqlFilter.Proofs.Text.Parts

/-!
# How a column name is spelled

Each character of an ASCII name is a cluster by itself, and none of its small letters depends on
where it stands.  The column name can then be written down character by character: a separator
becomes an underscore, any other character becomes its small form, and an underscore comes behind
it if a word begins there.  Whether one does is a matter of that character and the two behind it,
never of what came before, so that all that is said about a column name is said by induction on
the name.

Underscores apart, nothing is lost, added or moved.  A name without capitals, hyphens and blanks is
its own column name, however many underscores stand in a row or at its ends; and every column name
is such a name.

## Main results

* `Text.clusters_eq_map_of_ascii`: the clusters of an ASCII text.
* `spell`, `toList_snakeCase_of_ascii`: the column name, character by character.
* `unbarred_spell`, `exists_spell_neighbours`: what is in it, and where.
* `snakeCase_eq_self`, `snakeCase_only_respells`.
-/

namespace SqlFilter

namespace Text

/-! ## ASCII characters -/

/-- What holds of the first 128 characters holds of every ASCII character. -/
theorem forall_ascii {p : Char → Prop} (h : ∀ n : Fin 128, p (Char.ofNat n)) {c : Char}
    (hc : isAscii c = true) : p c := by
  rw [isAscii, decide_eq_true_iff] at hc
  have hchar := h ⟨c.toNat, hc⟩
  rwa [Char.ofNat_toNat] at hchar

theorem Ranges.contains_eq_false_of_ascii {r : Ranges} (hr : ∀ range ∈ r.intervals, 128 ≤ range.1)
    {c : Char} (hc : isAscii c = true) : r.contains c = false := by
  rw [isAscii, decide_eq_true_iff] at hc
  rw [Ranges.contains, List.any_eq_false]
  intro range hrange
  have hfirst := hr range hrange
  simp only [Bool.and_eq_true, decide_eq_true_eq, not_and]
  omega

theorem attachingRanges_past_ascii : ∀ range ∈ attachingRanges.intervals, 128 ≤ range.1 := by
  decide +kernel

theorem leadingRanges_past_ascii : ∀ range ∈ leadingRanges.intervals, 128 ≤ range.1 := by
  decide +kernel

/-- An ASCII character does not join an ASCII character before it. -/
theorem joins_eq_false_of_ascii {c d : Char} (hc : isAscii c = true) (hd : isAscii d = true)
    (cluster : List Char) : joins (c :: cluster) d = false := by
  have hjoiner : (c == joiner) = false := by
    rw [beq_eq_false_iff_ne]
    rintro rfl
    exact absurd hc (by decide)
  simp [joins, awaitsPictograph, hjoiner,
    Ranges.contains_eq_false_of_ascii attachingRanges_past_ascii hd,
    Ranges.contains_eq_false_of_ascii leadingRanges_past_ascii hc]

theorem clustersFrom_of_ascii {rest : List Char} : ∀ {c : Char}, isAscii c = true →
    (∀ d ∈ rest, isAscii d = true) → clustersFrom [c] rest = [c] :: rest.map ([·]) := by
  induction rest with
  | nil =>
      intro c hc hrest
      rfl
  | cons d rest ih =>
      intro c hc hrest
      rw [List.forall_mem_cons] at hrest
      rw [clustersFrom, joins_eq_false_of_ascii hc hrest.1, ih hrest.1 hrest.2]
      rfl

/-- The clusters of an ASCII text are its characters. -/
theorem clusters_eq_map_of_ascii {cs : List Char} (h : ∀ c ∈ cs, isAscii c = true) :
    clusters cs = cs.map ([·]) := by
  cases cs with
  | nil => rfl
  | cons c rest =>
      rw [List.forall_mem_cons] at h
      exact clustersFrom_of_ascii h.1 h.2

/-! ## Small letters of ASCII words -/

theorem isAscii_toLower {c : Char} (h : isAscii c = true) : isAscii c.toLower = true :=
  forall_ascii (p := fun c => isAscii c.toLower = true) (by decide +kernel) h

theorem lowerFrom_of_ascii {word : List Char} (h : ∀ c ∈ word, isAscii c = true)
    (before : List Char) : lowerFrom before word = word.map Char.toLower := by
  induction word generalizing before with
  | nil => rfl
  | cons c rest ih =>
      rw [List.forall_mem_cons] at h
      have hsigma : (c == 'Σ') = false := by
        rw [beq_eq_false_iff_ne]
        rintro rfl
        exact absurd h.1 (by decide)
      rw [lowerFrom, hsigma, lowerChar, if_pos h.1, ih h.2]
      rfl

/-- An ASCII word has no final sigma: its small letters are those of its characters. -/
theorem lowerChars_of_ascii {word : List Char} (h : ∀ c ∈ word, isAscii c = true) :
    lowerChars word = word.map Char.toLower :=
  lowerFrom_of_ascii h []

end Text

/-! ## Where words begin -/

/-- Whether a character stands between words, so that it is not kept. -/
def separates (c : Char) : Bool := c == '_' || c == '-' || c == ' '

/-- A word begins between two characters, given the one behind them: a capital comes after a small
letter or a digit, or it is the last of several capitals and a small letter comes next. -/
def WordBegins (before after : Char) (next : Option Char) : Prop :=
  (before.isLower = true ∨ before.isDigit = true) ∧ after.isUpper = true ∨
    before.isUpper = true ∧ after.isUpper = true ∧ next.any Char.isLower = true

instance (before after : Char) (next : Option Char) : Decidable (WordBegins before after next) :=
  inferInstanceAs (Decidable ((_ ∨ _) ∧ _ ∨ _ ∧ _ ∧ _))

/-- The role of an ASCII character is read off the character. -/
theorem role_of_ascii {c : Char} (h : Text.isAscii c = true) :
    (CharRole.of [c] = .separator ↔ separates c = true) ∧
      (CharRole.of [c] = .small ↔ c.isLower = true) ∧
      (CharRole.of [c] = .capital ↔ c.isUpper = true) ∧
      (CharRole.of [c] = .digit ↔ c.isDigit = true) :=
  Text.forall_ascii (p := fun c => (CharRole.of [c] = .separator ↔ separates c = true) ∧
      (CharRole.of [c] = .small ↔ c.isLower = true) ∧
      (CharRole.of [c] = .capital ↔ c.isUpper = true) ∧
      (CharRole.of [c] = .digit ↔ c.isDigit = true)) (by decide +kernel) h

theorem beginsWord_iff {before after : CharRole} {next : Option CharRole} :
    beginsWord before after next = true ↔
      (before = .small ∨ before = .digit) ∧ after = .capital ∨
        before = .capital ∧ after = .capital ∧ next = some .small := by
  cases before <;> cases after <;> simp [beginsWord]

theorem beginsWord_iff_of_ascii {before after : Char} {next : Option Char}
    (hbefore : Text.isAscii before = true) (hafter : Text.isAscii after = true)
    (hnext : ∀ c ∈ next, Text.isAscii c = true) :
    beginsWord (.of [before]) (.of [after]) (next.map fun c => .of [c]) = true ↔
      WordBegins before after next := by
  obtain ⟨-, hsmall, hcapital, hdigit⟩ := role_of_ascii hbefore
  obtain ⟨-, -, hcapital', -⟩ := role_of_ascii hafter
  have hsome : (next.map fun c => CharRole.of [c]) = some .small ↔
      next.any Char.isLower = true := by
    cases next with
    | none => simp
    | some c => simpa using (role_of_ascii (hnext c rfl)).2.1
  rw [beginsWord_iff, hsmall, hdigit, hcapital, hcapital', hsome, WordBegins]

/-! ## Words, joined -/

theorem wordsOf_ne_nil (clusters : List (List Char)) : wordsOf clusters ≠ [] := by
  cases clusters with
  | nil => simp [wordsOf]
  | cons cluster rest =>
      unfold wordsOf
      split
      · simp
      · extract_lets begins
        split
        · simp
        · split <;> simp

theorem wordsOf_cons_of_separator {cluster : List Char} (h : CharRole.of cluster = .separator)
    (rest : List (List Char)) : wordsOf (cluster :: rest) = [] :: wordsOf rest := by
  rw [wordsOf.eq_def]
  exact if_pos h

/-- Words with an underscore between them, in small letters. -/
def joinedWords (words : List (List Char)) : List Char :=
  ['_'].intercalate (words.map (List.map Char.toLower))

theorem joinedWords_cons (word : List Char) {words : List (List Char)} (h : words ≠ []) :
    joinedWords (word :: words) = word.map Char.toLower ++ '_' :: joinedWords words := by
  obtain ⟨next, words, rfl⟩ := List.exists_cons_of_ne_nil h
  simp [joinedWords, List.intercalate]

theorem joinedWords_cons_cons (c : Char) (word : List Char) (words : List (List Char)) :
    joinedWords ((c :: word) :: words) = c.toLower :: joinedWords (word :: words) := by
  cases words <;> simp [joinedWords, List.intercalate]

/-- Whether a word ends with a cluster, given those behind it. -/
def endsWord (cluster : List Char) : List (List Char) → Bool
  | [] => false
  | after :: more => beginsWord (.of cluster) (.of after) (more.head?.map CharRole.of)

/-- A cluster that is no separator is a word of its own or begins the next one. -/
theorem wordsOf_cons_of_kept {cluster word : List Char} {rest words : List (List Char)}
    (hkept : CharRole.of cluster ≠ .separator) (hrest : wordsOf rest = word :: words) :
    wordsOf (cluster :: rest) =
      if endsWord cluster rest then cluster :: word :: words else (cluster ++ word) :: words := by
  unfold wordsOf
  rw [if_neg hkept, hrest]
  cases rest <;> rfl

/-! ## The column name, character by character -/

/-- The underscore between a character and those behind it, if a word begins there. -/
def gap (c : Char) : List Char → List Char
  | [] => []
  | after :: rest => if WordBegins c after rest.head? then ['_'] else []

/-- What becomes of a name, character by character. -/
def spell : List Char → List Char
  | [] => []
  | c :: rest =>
    if separates c then '_' :: spell rest else c.toLower :: (gap c rest ++ spell rest)

theorem gap_eq_of_ascii {c : Char} {rest : List Char} (hc : Text.isAscii c = true)
    (hrest : ∀ d ∈ rest, Text.isAscii d = true) :
    gap c rest = if endsWord [c] (rest.map ([·])) then ['_'] else [] := by
  cases rest with
  | nil => rfl
  | cons after more =>
      rw [List.forall_mem_cons] at hrest
      have hnext : ∀ d ∈ more.head?, Text.isAscii d = true :=
        fun d hd => hrest.2 d (List.mem_of_mem_head? hd)
      have hhead : (more.map ([·])).head?.map CharRole.of =
          more.head?.map fun d => CharRole.of [d] := by
        rw [List.head?_map, Option.map_map]
        rfl
      rw [List.map_cons, endsWord, hhead, gap]
      simp only [beginsWord_iff_of_ascii hc hrest.1 hnext]

/-- What a character that is kept adds before the words behind it. -/
theorem joinedWords_wordsOf_cons {c : Char} {rest : List Char} (hc : Text.isAscii c = true)
    (hrest : ∀ d ∈ rest, Text.isAscii d = true) (hkept : separates c = false) :
    joinedWords (wordsOf ([c] :: rest.map ([·]))) =
      c.toLower :: (gap c rest ++ joinedWords (wordsOf (rest.map ([·])))) := by
  have hrole : CharRole.of [c] ≠ .separator := by
    rw [Ne, (role_of_ascii hc).1, hkept]
    decide
  obtain ⟨word, words, hwords⟩ := List.exists_cons_of_ne_nil (wordsOf_ne_nil (rest.map ([·])))
  rw [wordsOf_cons_of_kept hrole hwords, hwords, gap_eq_of_ascii hc hrest]
  split
  · rw [joinedWords_cons [c] (List.cons_ne_nil _ _)]
    rfl
  · exact joinedWords_cons_cons c word words

theorem joinedWords_wordsOf {cs : List Char} (h : ∀ c ∈ cs, Text.isAscii c = true) :
    joinedWords (wordsOf (cs.map ([·]))) = spell cs := by
  induction cs with
  | nil => rfl
  | cons c rest ih =>
      rw [List.forall_mem_cons] at h
      cases hsep : separates c with
      | true =>
          have hrole : CharRole.of [c] = .separator := (role_of_ascii h.1).1.mpr hsep
          rw [List.map_cons, wordsOf_cons_of_separator hrole,
            joinedWords_cons [] (wordsOf_ne_nil _), ih h.2, spell, if_pos hsep]
          rfl
      | false =>
          have hkept : ¬ separates c = true := by rw [hsep]; decide
          rw [List.map_cons, joinedWords_wordsOf_cons h.1 h.2 hsep, ih h.2, spell, if_neg hkept]

/-- **The column name of an ASCII name, character by character.** -/
theorem toList_snakeCase_of_ascii {name : String}
    (h : ∀ c ∈ name.toList, Text.isAscii c = true) :
    (snakeCase name).toList = spell name.toList := by
  have hwords : columnWords name = wordsOf (name.toList.map ([·])) := by
    rw [columnWords, Text.clusters_eq_map_of_ascii h]
  have hlower : ∀ word ∈ columnWords name,
      String.toList (String.ofList (Text.lowerChars word)) = word.map Char.toLower := by
    intro word hword
    rw [String.toList_ofList, Text.lowerChars_of_ascii]
    intro c hc
    obtain ⟨cluster, hcluster, hmem⟩ := mem_wordsOf hword hc
    exact h c (Text.mem_clusters hcluster hmem)
  have hparts : ((columnWords name).map fun word => String.ofList (Text.lowerChars word)).map
      String.toList = (columnWords name).map (List.map Char.toLower) := by
    rw [List.map_map]
    exact List.map_congr_left hlower
  rw [snakeCase, Text.toList_joinWith (c := '_') (by decide), hparts, hwords]
  exact joinedWords_wordsOf h

/-! ## What is in a column name, and where -/

/-- A text without its underscores. -/
def unbarred (cs : List Char) : List Char := cs.filter (· != '_')

/-- What is kept of a name, in small letters. -/
def letters (cs : List Char) : List Char := (cs.filter (!separates ·)).map Char.toLower

theorem unbarred_append (xs ys : List Char) : unbarred (xs ++ ys) = unbarred xs ++ unbarred ys :=
  List.filter_append xs ys

theorem unbarred_cons_bar (cs : List Char) : unbarred ('_' :: cs) = unbarred cs := rfl

/-- A separator is the small form of nothing but itself, and it is not kept. -/
theorem toLower_ne_of_kept {c sign : Char} (h : separates c = false)
    (hsign : separates sign = true) : c.toLower ≠ sign := by
  rintro rfl
  have hlow : c.toLower.toNat < 97 := by
    simp only [separates, Bool.or_eq_true, beq_iff_eq] at hsign
    rcases hsign with (hsign | hsign) | hsign <;> rw [hsign] <;> decide
  rw [Text.toLower_eq_self_of_toNat_lt hlow, h] at hsign
  cases hsign

theorem unbarred_cons_of_kept {c : Char} (h : separates c = false) (cs : List Char) :
    unbarred (c.toLower :: cs) = c.toLower :: unbarred cs :=
  List.filter_cons_of_pos (bne_iff_ne.mpr (toLower_ne_of_kept h (by decide)))

theorem unbarred_gap (c : Char) (rest : List Char) : unbarred (gap c rest) = [] := by
  cases rest with
  | nil => rfl
  | cons after more =>
      rw [gap]
      split <;> rfl

theorem letters_cons_of_separator {c : Char} (h : separates c = true) (rest : List Char) :
    letters (c :: rest) = letters rest := by
  simp [letters, h]

theorem letters_cons_of_kept {c : Char} (h : separates c = false) (rest : List Char) :
    letters (c :: rest) = c.toLower :: letters rest := by
  simp [letters, h]

/-- What stands behind a part of a name does not change what the part becomes, the underscore at
the seam apart. -/
theorem exists_spell_append (before rest : List Char) :
    ∃ lead, spell (before ++ rest) = lead ++ spell rest ∧ unbarred lead = letters before := by
  induction before with
  | nil => exact ⟨[], rfl, rfl⟩
  | cons c before ih =>
      obtain ⟨lead, hspell, hletters⟩ := ih
      rw [List.cons_append, spell, hspell]
      cases hsep : separates c with
      | true =>
          refine ⟨'_' :: lead, by rw [if_pos rfl, List.cons_append], ?_⟩
          rw [unbarred_cons_bar, hletters, letters_cons_of_separator hsep]
      | false =>
          refine ⟨c.toLower :: (gap c (before ++ rest) ++ lead), ?_, ?_⟩
          · rw [if_neg Bool.false_ne_true, List.cons_append, List.append_assoc]
          · rw [unbarred_cons_of_kept hsep, unbarred_append, unbarred_gap, hletters,
              letters_cons_of_kept hsep, List.nil_append]

/-- Underscores apart, a column name is what is kept of the name, in small letters. -/
theorem unbarred_spell (cs : List Char) : unbarred (spell cs) = letters cs := by
  obtain ⟨lead, hspell, hletters⟩ := exists_spell_append cs []
  rw [List.append_nil] at hspell
  rw [hspell, spell, List.append_nil, hletters]

/-- Between two neighbours that are kept stands an underscore if a word begins there, and nothing
otherwise. -/
theorem exists_spell_neighbours {first second : Char} (hfirst : separates first = false)
    (hsecond : separates second = false) (before after : List Char) :
    ∃ lead rest, spell (before ++ first :: second :: after) =
        lead ++ first.toLower ::
          ((if WordBegins first second after.head? then ['_'] else []) ++ second.toLower :: rest) ∧
      unbarred lead = letters before ∧ unbarred rest = letters after := by
  obtain ⟨lead, hspell, hletters⟩ := exists_spell_append before (first :: second :: after)
  refine ⟨lead, gap second after ++ spell after, ?_, hletters, ?_⟩
  · have hfirst' : ¬ separates first = true := by rw [hfirst]; decide
    have hsecond' : ¬ separates second = true := by rw [hsecond]; decide
    rw [hspell, spell, if_neg hfirst', spell, if_neg hsecond', gap]
  · rw [unbarred_append, unbarred_gap, List.nil_append, unbarred_spell]

/-- A character of a column name is an underscore, or the small form of one that is kept. -/
theorem mem_spell {c : Char} {cs : List Char} (h : c ∈ spell cs) :
    c = '_' ∨ ∃ d ∈ cs, separates d = false ∧ c = d.toLower := by
  by_cases hbar : c = '_'
  · exact .inl hbar
  · have hmem : c ∈ unbarred (spell cs) :=
      List.mem_filter.mpr ⟨h, bne_iff_ne.mpr hbar⟩
    rw [unbarred_spell, letters, List.mem_map] at hmem
    obtain ⟨d, hd, rfl⟩ := hmem
    rw [List.mem_filter, Bool.not_eq_true'] at hd
    exact .inr ⟨d, hd.1, hd.2, rfl⟩

/-- A character that may stand in a column name. -/
def Settled (c : Char) : Prop := c.isUpper = false ∧ c ≠ '-' ∧ c ≠ ' '

theorem settled_of_mem_spell {c : Char} {cs : List Char} (h : c ∈ spell cs) : Settled c := by
  rcases mem_spell h with rfl | ⟨d, -, hkept, rfl⟩
  · exact ⟨by decide, by decide, by decide⟩
  · exact ⟨Text.isUpper_toLower d, toLower_ne_of_kept hkept (by decide),
      toLower_ne_of_kept hkept (by decide)⟩

/-- No word begins at a character that is no capital. -/
theorem gap_of_settled {rest : List Char} (h : ∀ c ∈ rest, Settled c) (c : Char) :
    gap c rest = [] := by
  cases rest with
  | nil => rfl
  | cons after more =>
      have hcapital : after.isUpper = false := (h after List.mem_cons_self).1
      rw [gap, if_neg]
      simp [WordBegins, hcapital]

theorem spell_eq_self {cs : List Char} (h : ∀ c ∈ cs, Settled c) : spell cs = cs := by
  induction cs with
  | nil => rfl
  | cons c rest ih =>
      rw [List.forall_mem_cons] at h
      obtain ⟨⟨hcapital, hhyphen, hblank⟩, hrest⟩ := h
      rw [spell, gap_of_settled hrest, ih hrest, Text.toLower_eq_self hcapital]
      split
      · rename_i hsep
        have hbar : c = '_' := by simpa [separates, hhyphen, hblank] using hsep
        rw [hbar]
      · rfl

/-- **A name without capitals, hyphens and blanks is its own column name.** -/
theorem snakeCase_eq_self {name : String} (hascii : ∀ c ∈ name.toList, Text.isAscii c = true)
    (h : ∀ c ∈ name.toList, Settled c) : snakeCase name = name := by
  rw [← String.toList_inj, toList_snakeCase_of_ascii hascii, spell_eq_self h]

theorem isAscii_of_mem_spell {cs : List Char} (h : ∀ c ∈ cs, Text.isAscii c = true) :
    ∀ c ∈ spell cs, Text.isAscii c = true := by
  intro c hc
  rcases mem_spell hc with rfl | ⟨d, hd, -, rfl⟩
  · decide
  · exact Text.isAscii_toLower (h d hd)

/-- **A column name is its field's name with other separators and in small letters.**  Underscores
apart it is what is kept of the name, in small letters; it holds no capital, no hyphen and no
blank.  Between two neighbours that are kept, each found by what stands before and behind it,
there is an underscore if a word begins there and nothing otherwise.  And a column name is its own
column name. -/
theorem snakeCase_only_respells {name : String} (h : ∀ c ∈ name.toList, Text.isAscii c = true) :
    unbarred (snakeCase name).toList = letters name.toList ∧
    (∀ c ∈ (snakeCase name).toList, c.isUpper = false ∧ c ≠ '-' ∧ c ≠ ' ') ∧
    (∀ before first second after, name.toList = before ++ first :: second :: after →
      separates first = false → separates second = false →
      ∃ lead rest, (snakeCase name).toList =
          lead ++ first.toLower ::
            ((if WordBegins first second after.head? then ['_'] else []) ++
              second.toLower :: rest) ∧
        unbarred lead = letters before ∧ unbarred rest = letters after) ∧
    snakeCase (snakeCase name) = snakeCase name := by
  have hspell := toList_snakeCase_of_ascii h
  refine ⟨?_, ?_, ?_, ?_⟩
  · rw [hspell, unbarred_spell]
  · intro c hc
    exact settled_of_mem_spell (hspell ▸ hc)
  · intro before first second after hname hfirst hsecond
    rw [hspell, hname]
    exact exists_spell_neighbours hfirst hsecond before after
  · refine snakeCase_eq_self ?_ fun c hc => settled_of_mem_spell (hspell ▸ hc)
    rw [hspell]
    exact isAscii_of_mem_spell h

theorem snakeCase_only_respells_httpRequest :
    snakeCase "XMLHttp- Request2Go" = "xml_http__request2_go" ∧
      unbarred (snakeCase "XMLHttp- Request2Go").toList = letters "XMLHttp- Request2Go".toList ∧
      (∃ lead rest, (snakeCase "XMLHttp- Request2Go").toList =
          lead ++ 'l' :: (['_'] ++ 'h' :: rest) ∧
        unbarred lead = letters "XM".toList ∧ unbarred rest = letters "ttp- Request2Go".toList) ∧
      snakeCase (snakeCase "XMLHttp- Request2Go") = "xml_http__request2_go" := by
  have hascii : ∀ c ∈ "XMLHttp- Request2Go".toList, Text.isAscii c = true :=
    List.all_eq_true.mp (by decide)
  have hcolumn : snakeCase "XMLHttp- Request2Go" = "xml_http__request2_go" := by decide +kernel
  have hname : "XMLHttp- Request2Go".toList =
      "XM".toList ++ 'L' :: 'H' :: "ttp- Request2Go".toList := by decide
  have hbegins : WordBegins 'L' 'H' "ttp- Request2Go".toList.head? := by decide
  have hsmall : 'L'.toLower = 'l' ∧ 'H'.toLower = 'h' := by decide
  obtain ⟨hletters, -, hneighbours, hagain⟩ := snakeCase_only_respells hascii
  have hpair := hneighbours _ _ _ _ hname (by decide) (by decide)
  rw [if_pos hbegins, hsmall.1, hsmall.2] at hpair
  exact ⟨hcolumn, hletters, hpair, hagain.trans hcolumn⟩

end SqlFilter
