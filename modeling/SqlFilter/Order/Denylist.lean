import SqlFilter.Text.Word

/-!
# Denied text in sort columns

A sort column is the one place where a caller's text becomes SQL text and not a bound parameter.
`looksInjected` refuses text that holds a quote, a semicolon, an operator or comment sign, or one
of twelve statement words as a word of its own. A word matches in any case, and that includes the
two letters past ASCII that fold into it: the long s and the Kelvin sign. A word that is only part
of a longer one, such as `count` in `account_id`, is not meant.
-/

namespace SqlFilter.Order

/-- Quotes, the end of a statement, and the signs of arithmetic and comments. -/
def deniedSigns : List Char := ['\x27', '"', '\x60', ';', '*', '+', '/']

/-- Words that begin or shape a statement. -/
def deniedWords : List String :=
  ["union", "select", "insert", "update", "delete", "drop", "grant", "exec", "create", "alter",
    "truncate", "count"]

/-- Whether a character is the small ASCII letter in some case. -/
def foldsTo (c letter : Char) : Bool :=
  c.toLower == letter || (letter == 's' && c == 'ſ') || (letter == 'k' && c == '\u212a')

/-- What follows a word at the start of the text, matched in any case. -/
def afterWord? : List Char → List Char → Option (List Char)
  | [], rest => some rest
  | _ :: _, [] => none
  | letter :: word, c :: rest => if foldsTo c letter then afterWord? word rest else none

/-- Whether the text starts with the word and the word ends there. -/
def startsWithWord (text : List Char) (word : String) : Bool :=
  match afterWord? word.toList text with
  | none => false
  | some rest => !(rest.head?.any Text.isWord)

/-- Whether something denied starts at the head of the text, or later. The flag says whether a
word character stands before, so that a word cannot begin here. -/
def deniedFrom (insideWord : Bool) : List Char → Bool
  | [] => false
  | c :: cs =>
    deniedSigns.contains c || (c == '-' && cs.head? == some '-') ||
      (!insideWord && deniedWords.any (startsWithWord (c :: cs))) ||
      deniedFrom (Text.isWord c) cs

/-- Whether the text holds anything denied. -/
def looksInjected (text : String) : Bool := deniedFrom false text.toList

end SqlFilter.Order
