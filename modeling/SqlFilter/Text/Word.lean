import SqlFilter.Text.Ranges
import SqlFilter.Text.WordTable

/-!
# Word characters

A word character is a letter, mark, decimal digit, connector or join control. A word begins or
ends where a word character meets another character or the end of the text, which is how a
keyword is told from a longer name that contains it.
-/

namespace SqlFilter.Text

/-- ASCII letters, digits and the underscore. -/
def isAsciiWord (c : Char) : Bool := c.isAlphanum || c == '_'

/-- Letters, marks, decimal digits, connectors and join controls. -/
def isWord (c : Char) : Bool :=
  if isAscii c then isAsciiWord c else wordRanges.contains c

end SqlFilter.Text
