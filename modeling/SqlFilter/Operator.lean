import SqlFilter.Text.Space

/-!
# Predicate operators

The operators a field's tag can name, grouped by what they do with the field's value: comparisons
and text matches bind it, membership binds one or many, the null checks ignore it, ordering reads
it as a sort request, and a join descends into it.

## Main definitions

* `Operator`, with `Comparison` and `Anchor` for the families that have members.
* `Operator.name`, `Operator.ofName?`: the word for an operator and back; no word means equality.
* `Anchor.pattern`: a text with wildcards around it.
-/

namespace SqlFilter

/-- The relations between a column and one value. -/
inductive Comparison where
  | eq
  | gt
  | gte
  | lt
  | lte
  deriving DecidableEq, Repr

/-- The SQL symbol of a relation. -/
def Comparison.symbol : Comparison → String
  | .eq => "="
  | .gt => ">"
  | .gte => ">="
  | .lt => "<"
  | .lte => "<="

/-- Where in the column's text a match has to lie. -/
inductive Anchor where
  | anywhere
  | atStart
  | atEnd
  deriving DecidableEq, Repr

/-- A text with `%` on every side where more text may stand. -/
def Anchor.pattern (anchor : Anchor) (text : String) : String :=
  match anchor with
  | .anywhere => "%" ++ text ++ "%"
  | .atStart => text ++ "%"
  | .atEnd => "%" ++ text

/-- What a tagged field asks of its column. -/
inductive Operator where
  /-- Compares the column with the value. -/
  | compare (relation : Comparison)
  /-- Matches the column's text against the value's, with or without regard to case. -/
  | like (anchor : Anchor) (ignoreCase : Bool)
  /-- Asks for one of the values. -/
  | oneOf
  /-- Asks for a missing column value. -/
  | isNull
  /-- Asks for a present column value. -/
  | isNotNull
  /-- Sorts by the column. -/
  | order
  /-- Joins another table and filters it. -/
  | join
  deriving DecidableEq, Repr

namespace Operator

/-- The operator of a tag that names none. -/
def default : Operator := .compare .eq

/-- The word for an operator. -/
def name : Operator → String
  | .compare .eq => "eq"
  | .compare .gt => "gt"
  | .compare .gte => "gte"
  | .compare .lt => "lt"
  | .compare .lte => "lte"
  | .like .anywhere false => "like"
  | .like .anywhere true => "ilike"
  | .like .atStart false => "left"
  | .like .atStart true => "ileft"
  | .like .atEnd false => "right"
  | .like .atEnd true => "iright"
  | .oneOf => "in"
  | .isNull => "isnull"
  | .isNotNull => "isnotnull"
  | .order => "order"
  | .join => "join"

/-- Every operator. -/
def all : List Operator :=
  [.compare .eq, .like .anywhere false, .like .anywhere true, .like .atStart false,
    .like .atStart true, .like .atEnd false, .like .atEnd true, .compare .gt, .compare .gte,
    .compare .lt, .compare .lte, .oneOf, .isNull, .isNotNull, .order, .join]

/-- The operator with a name; the empty name means equality. -/
def ofName? (word : String) : Option Operator :=
  if word = "" then some default else all.find? fun op => op.name = word

theorem mem_all (op : Operator) : op ∈ all := by
  rcases op with c | ⟨a, i⟩ | _ | _ | _ | _ | _
  · cases c <;> decide
  · cases a <;> cases i <;> decide
  all_goals decide

@[simp] theorem ofName?_name (op : Operator) : ofName? op.name = some op := by
  rcases op with c | ⟨a, i⟩ | _ | _ | _ | _ | _
  · cases c <;> decide
  · cases a <;> cases i <;> decide
  all_goals decide

/-- The SQL symbol of a comparison; the other operators have none. -/
def comparison? : Operator → Option String
  | .compare relation => some relation.symbol
  | _ => none

/-- Whether the operator matches text. -/
def isLike : Operator → Bool
  | .like _ _ => true
  | _ => false

/-- Whether the operator matches text without regard to case. -/
def isCaseInsensitive : Operator → Bool
  | .like _ ignoreCase => ignoreCase
  | _ => false

/-- The pattern for a text: as the operator anchors it, anywhere for one that does not match
text. -/
def pattern : Operator → String → String
  | .like anchor _, text => anchor.pattern text
  | _, text => Anchor.anywhere.pattern text

end Operator

end SqlFilter
