import SqlFilter.Text.Cluster
import SqlFilter.Text.LetterCase
import SqlFilter.Text.Space

/-!
# Column names

The column of a field is the field's name in small letters with underscores between words, so that
`userName` filters `user_name`. Underscores, hyphens and blanks separate words, each one of them,
so that several in a row give as many underscores. Between two characters that are kept, a word
begins

* at a capital after a small letter or a digit (`user|Name`, `line1|Name`), and
* at the last of several capitals if a small letter follows (`HTTP|Response`).

Digits stay with the word before them. A character here is what a reader sees as one, so that an
accent written apart does not hide the letter under it.

## Main definitions

* `columnWords`: the words of a name.
* `snakeCase`: the words in small letters, joined by underscores.
-/

namespace SqlFilter

open Text (clusters hasLower hasUpper lowerChars)

/-! ## What begins a word -/

/-- How a character bears on where words begin. -/
inductive CharRole where
  | separator
  | small
  | capital
  | digit
  | other
  deriving DecidableEq, Repr

/-- The role of a character, given as a cluster. A cluster is a capital if small letters would
change it and capitals would not, and the other way round for a small letter. -/
def CharRole.of (cluster : List Char) : CharRole :=
  if cluster = ['_'] ∨ cluster = ['-'] ∨ cluster = [' '] then .separator
  else if cluster.all (!hasUpper ·) && cluster.any hasLower then .capital
  else if cluster.all (!hasLower ·) && cluster.any hasUpper then .small
  else if cluster.all Char.isDigit then .digit
  else .other

/-- Whether a word begins between two characters, given the roles of the two and of the one
after them. -/
def beginsWord (before after : CharRole) (next : Option CharRole) : Bool :=
  match before, after with
  | .small, .capital => true
  | .digit, .capital => true
  | .capital, .capital => next == some .small
  | _, _ => false

/-! ## Words -/

/-- The words of a list of clusters: separators end a word and are dropped, and a word also ends
where the next one begins. There is always at least one word, which may be empty. -/
def wordsOf : List (List Char) → List (List Char)
  | [] => [[]]
  | cluster :: rest =>
    if CharRole.of cluster = .separator then [] :: wordsOf rest
    else
      let begins := match rest with
        | [] => false
        | after :: more =>
          beginsWord (.of cluster) (.of after) (more.head?.map CharRole.of)
      if begins then cluster :: wordsOf rest
      else match wordsOf rest with
        | [] => [cluster]
        | word :: words => (cluster ++ word) :: words

/-- The words of a name. -/
def columnWords (name : String) : List (List Char) := wordsOf (clusters name.toList)

/-- A name in small letters with underscores between its words. -/
def snakeCase (name : String) : String :=
  Text.joinWith "_" ((columnWords name).map fun word => String.ofList (lowerChars word))

end SqlFilter
