/-!
# Blank space and separated lists

Trimming and splitting as filter tags, order expressions and names need them. Blank space is
Unicode's `White_Space` property, not only the ASCII blanks, so an ideographic space around a key
is trimmed while a zero-width space is text.

The work is done on lists of characters; `trim` is the form on `String`.

## Main definitions

* `isBlank`, `trimChars`, `trim`: blank space, and a text without it at both ends.
* `splitChars`: the parts between separators; always at least one part.
* `cutChars`: the text before and after the first separator.
-/

namespace SqlFilter.Text

/-! ## Blank space -/

/-- The 25 characters with the `White_Space` property. -/
def isBlank (c : Char) : Bool :=
  let n := c.toNat
  (9 ≤ n && n ≤ 13) || n == 0x20 || n == 0x85 || n == 0xA0 || n == 0x1680 ||
    (0x2000 ≤ n && n ≤ 0x200A) || n == 0x2028 || n == 0x2029 || n == 0x202F ||
    n == 0x205F || n == 0x3000

/-- A list of characters without the blanks at its two ends. -/
def trimChars (cs : List Char) : List Char :=
  ((cs.dropWhile isBlank).reverse.dropWhile isBlank).reverse

/-- A text without the blanks at its two ends. -/
def trim (s : String) : String := String.ofList (trimChars s.toList)

/-- Whether a text holds nothing but blanks. -/
def isBlankText (s : String) : Bool := s.toList.all isBlank

/-! ## Separators -/

/-- The parts of a text between the separators; a text without one is a single part. -/
def splitChars (sep : Char) : List Char → List (List Char)
  | [] => [[]]
  | c :: cs =>
    if c = sep then [] :: splitChars sep cs
    else match splitChars sep cs with
      | [] => [[c]]
      | part :: parts => (c :: part) :: parts

theorem splitChars_ne_nil (sep : Char) (cs : List Char) : splitChars sep cs ≠ [] := by
  cases cs with
  | nil => simp [splitChars]
  | cons c cs =>
    by_cases h : c = sep
    · simp [splitChars, h]
    · simp only [splitChars, h, ↓reduceIte]
      split <;> simp

/-- What stands before and after the first separator, if there is one. -/
def cutChars (sep : Char) : List Char → Option (List Char × List Char)
  | [] => none
  | c :: cs =>
    if c = sep then some ([], cs)
    else (cutChars sep cs).map fun (before, after) => (c :: before, after)

/-! ## ASCII case -/

/-- A text with its ASCII capitals made small and everything else as it was. -/
def asciiLower (s : String) : String := String.ofList (s.toList.map Char.toLower)

/-- Texts joined with a separator between them. -/
def joinWith (sep : String) : List String → String
  | [] => ""
  | [s] => s
  | s :: rest => s ++ sep ++ joinWith sep rest

end SqlFilter.Text
