import SqlFilter.Proofs.Text.Parts
import SqlFilter.Tag

/-!
# What a tag says is what its segments say

A tag is read segment by segment, and of a segment only the key and the value count, without the
blanks around them.  So blanks around the tag do not count either, and apart from a tag that is only
`-`, which has no segments, everything that can be said of a tag's text can be said of its keys
and values.

## Main results

* `Tag.segments_trimChars`: blanks around a tag.
* `Tag.read`, `Tag.parse_eq_read`: a tag, from its keys and values.
* `Tag.trimmed_of_mem_segments`, `Tag.notMem_of_mem_segments`: the values in a text.
-/

namespace SqlFilter

open Text (isBlank trimChars cutChars splitChars)

namespace Text

/-- A blank is none of the characters that are not blank. -/
theorem ne_of_isBlank {b c : Char} (hb : isBlank b = true) (hc : isBlank c = false) : b ≠ c := by
  rintro rfl
  rw [hb] at hc
  cases hc

theorem cutChars_cons_of_ne {sep c : Char} (hc : c ≠ sep) (cs : List Char) :
    cutChars sep (c :: cs) =
      (cutChars sep cs).map fun (before, after) => (c :: before, after) := if_neg hc

theorem cutChars_concat_of_ne {sep c : Char} (hc : c ≠ sep) (cs : List Char) :
    cutChars sep (cs ++ [c]) =
      (cutChars sep cs).map fun (before, after) => (before, after ++ [c]) := by
  induction cs with
  | nil => exact if_neg hc
  | cons x rest ih =>
      by_cases hx : x = sep
      · simp [cutChars, hx]
      · rw [List.cons_append, cutChars_cons_of_ne hx, cutChars_cons_of_ne hx, ih, Option.map_map,
          Option.map_map]
        rfl

end Text

namespace Tag

/-! ## Blanks -/

theorem segment?_cons_of_isBlank {b : Char} (hb : isBlank b = true) (part : List Char) :
    segment? (b :: part) = segment? part := by
  have hne : b ≠ ':' := Text.ne_of_isBlank hb (by decide)
  rw [segment?, segment?, Text.cutChars_cons_of_ne hne, Option.map_map]
  congr 1
  funext ⟨key, value⟩
  simp [Text.trimChars_cons_of_isBlank hb]

theorem segment?_concat_of_isBlank {b : Char} (hb : isBlank b = true) (part : List Char) :
    segment? (part ++ [b]) = segment? part := by
  have hne : b ≠ ':' := Text.ne_of_isBlank hb (by decide)
  rw [segment?, segment?, Text.cutChars_concat_of_ne hne, Option.map_map]
  congr 1
  funext ⟨key, value⟩
  simp [Text.trimChars_concat_of_isBlank hb]

theorem segments_cons_of_isBlank {b : Char} (hb : isBlank b = true) (text : List Char) :
    segments (b :: text) = segments text := by
  have hne : b ≠ ';' := Text.ne_of_isBlank hb (by decide)
  obtain ⟨first, parts, hparts, hcons⟩ := Text.exists_splitChars_cons ';' b text
  rw [segments, segments, hcons, if_neg hne, hparts, List.filterMap_cons, List.filterMap_cons,
    segment?_cons_of_isBlank hb]

theorem segments_concat_of_isBlank {b : Char} (hb : isBlank b = true) (text : List Char) :
    segments (text ++ [b]) = segments text := by
  have hne : b ≠ ';' := Text.ne_of_isBlank hb (by decide)
  obtain ⟨init, last, hparts, hconcat⟩ := Text.exists_splitChars_concat hne text
  rw [segments, segments, hconcat, hparts, List.filterMap_append, List.filterMap_append,
    List.filterMap_cons, List.filterMap_cons, segment?_concat_of_isBlank hb]

/-- **Blanks around a tag do not count.** -/
theorem segments_trimChars (text : List Char) : segments (trimChars text) = segments text := by
  have hstart : segments (text.dropWhile isBlank) = segments text := by
    induction text with
    | nil => rfl
    | cons c rest ih =>
        cases hc : isBlank c with
        | true => rw [List.dropWhile_cons_of_pos hc, ih, segments_cons_of_isBlank hc]
        | false => rw [List.dropWhile_cons_of_neg (by simp [hc])]
  have hend : ∀ cs : List Char, segments (cs.rdropWhile isBlank) = segments cs := by
    intro cs
    induction cs using List.reverseRecOn with
    | nil => rfl
    | append_singleton cs c ih =>
        cases hc : isBlank c with
        | true => rw [List.rdropWhile_concat_pos _ _ _ hc, ih, segments_concat_of_isBlank hc]
        | false => rw [List.rdropWhile_concat_neg _ _ _ (by simp [hc])]
  rw [Text.trimChars_eq, hend, hstart]

/-! ## Reading segments -/

/-- What keys and values amount to. -/
def read (parts : List (String × String)) : Except TagError (Option Tag) :=
  if skips parts then .ok none
  else
    match Draft.empty.addAll parts with
    | .error e => .error e
    | .ok draft =>
      match draft.finish with
      | .error e => .error e
      | .ok tag => .ok (some tag)

/-- **A tag is what its keys and values amount to**, unless it is only a dash. -/
theorem parse_eq_read {text : String} (h : trimChars text.toList ≠ ['-']) :
    parse text = read (segments text.toList) := by
  simp only [parse, if_neg h, segments_trimChars]
  rfl

theorem parse_of_dash {text : String} (h : trimChars text.toList = ['-']) :
    parse text = .ok none := if_pos h

/-- A tag that was read is what its keys and values amount to. -/
theorem exists_draft_of_parse {text : String} {tag : Tag} (h : parse text = .ok (some tag)) :
    ∃ draft : Draft, Draft.empty.addAll (segments text.toList) = .ok draft ∧
      draft.finish = .ok tag := by
  by_cases hdash : trimChars text.toList = ['-']
  · rw [parse_of_dash hdash] at h
    cases h
  · rw [parse_eq_read hdash, read] at h
    split at h
    · cases h
    · split at h
      · cases h
      · split at h
        · cases h
        · rename_i draft hdraft _ _ hfinish
          cases h
          exact ⟨draft, hdraft, hfinish⟩

/-! ## The values in a text -/

section Values

variable {text : List Char} {key value : String} (h : (key, value) ∈ segments text)
include h

/-- A value comes out of one part of the text. -/
theorem exists_part_of_mem_segments :
    ∃ part ∈ splitChars ';' text, ∃ after, (∀ c ∈ after, c ∈ part) ∧
      value = String.ofList (trimChars after) := by
  obtain ⟨part, hpart, hsegment⟩ := List.mem_filterMap.mp h
  obtain ⟨⟨before, after⟩, hcut, hpair⟩ := Option.map_eq_some_iff.mp hsegment
  cases hpair
  refine ⟨part, hpart, after, fun c hc => ?_, rfl⟩
  rw [(Text.cutChars_eq_some_iff.mp hcut).1]
  exact List.mem_append_right _ (List.mem_cons_of_mem _ hc)

theorem trimmed_of_mem_segments : Text.trim value = value := by
  obtain ⟨part, -, after, -, rfl⟩ := exists_part_of_mem_segments h
  rw [Text.trim_eq_self_iff, String.toList_ofList, Text.trimChars_trimChars]

theorem notMem_of_mem_segments : ';' ∉ value.toList := by
  obtain ⟨part, hpart, after, hafter, rfl⟩ := exists_part_of_mem_segments h
  intro hmem
  rw [String.toList_ofList] at hmem
  exact Text.notMem_of_mem_splitChars hpart (hafter _ (Text.mem_of_mem_trimChars hmem))

end Values

end Tag

end SqlFilter
