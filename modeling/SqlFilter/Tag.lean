import SqlFilter.Operator

/-!
# Query tags

A field's tag says how the field becomes a predicate. It is a list of `key:value` segments
separated by semicolons, such as `type:gte;column:created_at;group:or`:

* `type` names the operator, equality if it is missing or empty;
* `column` and `table` replace the column and table that the field would have by itself;
* `join` and `on` name the joined table and the two columns, joined and owning, of a join;
* `group` is `and` or `or`.

Blanks around segments, keys and values do not count; segments without a colon and unknown keys
are skipped; of several segments with one key the last that says something holds. A tag that is
only `-`, or that has a segment `type:-` anywhere, skips the field.

## Main definitions

* `Tag`: what a tag says. `TagError`: why a text is no tag.
* `Tag.segments`: the keys and values of a text.
* `Tag.parse`: reads a tag; `none` is the answer for a tag that skips its field.
-/

namespace SqlFilter

/-! ## What a tag says -/

/-- Whether a predicate has to hold with the others or is one of the alternatives. -/
inductive Group where
  | and
  | or
  deriving DecidableEq, Repr

/-- The word for a group. -/
def Group.name : Group → String
  | .and => "and"
  | .or => "or"

/-- A table to join, and the columns that tie it to the table it is joined to. -/
structure JoinTarget where
  /-- The joined table. -/
  table : String
  /-- The column of the joined table. -/
  joined : String
  /-- The column of the table it is joined to. -/
  owning : String
  deriving DecidableEq, Repr

/-- What a tag says about its field. -/
structure Tag where
  operator : Operator
  /-- The column, if not the one that the field is named for. -/
  column : Option String
  /-- The table, if not that of the scope the field stands in. -/
  table : Option String
  /-- The join, present exactly if that is the operator. -/
  join : Option JoinTarget
  group : Group
  deriving DecidableEq, Repr

/-- Why a text is no tag. -/
inductive TagError where
  | unknownOperator (word : String)
  | missingJoinTarget
  | joinColumns (found : Nat)
  | unknownGroup (word : String)
  deriving DecidableEq, Repr

/-- The message for a reader. -/
def TagError.message : TagError → String
  | .unknownOperator word => "unknown query operator '" ++ word ++ "'"
  | .missingJoinTarget => "join tag is missing 'join:<table>'"
  | .joinColumns found =>
    "join tag needs 'on:<local>,<foreign>', found " ++ toString found ++ " column(s)"
  | .unknownGroup word =>
    "unknown predicate group '" ++ word ++ "', expected 'and' or 'or'"

namespace Tag

/-! ## Segments -/

/-- The key and value of one segment, trimmed; nothing if it has no colon. -/
def segment? (part : List Char) : Option (String × String) :=
  (Text.cutChars ':' part).map fun (key, value) =>
    (String.ofList (Text.trimChars key), String.ofList (Text.trimChars value))

/-- The keys and values of a tag's text, in order. -/
def segments (text : List Char) : List (String × String) :=
  (Text.splitChars ';' text).filterMap segment?

/-- Whether the segments skip the field. -/
def skips (segments : List (String × String)) : Bool :=
  segments.any fun (key, value) => key = "type" && value = "-"

/-! ## Reading -/

/-- What the segments read so far have said. -/
structure Draft where
  operator : Operator
  column : Option String
  table : Option String
  joinTable : Option String
  joinColumns : List String
  group : Group
  deriving DecidableEq, Repr

/-- What a tag without segments says. -/
def Draft.empty : Draft := ⟨.default, none, none, none, [], .and⟩

/-- The columns of an `on` segment, trimmed. -/
def columnList (value : String) : List String :=
  (Text.splitChars ',' value.toList).map fun part => String.ofList (Text.trimChars part)

/-- Takes in one more segment. -/
def Draft.add (draft : Draft) (key value : String) : Except TagError Draft :=
  if key = "type" then
    match Operator.ofName? value with
    | some op => .ok { draft with operator := op }
    | none => .error (.unknownOperator value)
  else if key = "column" then
    .ok (if value = "" then draft else { draft with column := some value })
  else if key = "table" then
    .ok (if value = "" then draft else { draft with table := some value })
  else if key = "join" then
    .ok (if value = "" then draft else { draft with joinTable := some value })
  else if key = "on" then .ok { draft with joinColumns := columnList value }
  else if key = "group" then
    if value = "" ∨ value = "and" then .ok { draft with group := .and }
    else if value = "or" then .ok { draft with group := .or }
    else .error (.unknownGroup value)
  else .ok draft

/-- Takes in segments in order, up to the first that is wrong. -/
def Draft.addAll (draft : Draft) : List (String × String) → Except TagError Draft
  | [] => .ok draft
  | (key, value) :: rest =>
    match draft.add key value with
    | .ok next => next.addAll rest
    | .error e => .error e

/-- The target of a join: a table, and exactly two columns that are not empty. -/
def Draft.joinTarget (draft : Draft) : Except TagError JoinTarget :=
  match draft.joinTable with
  | none => .error .missingJoinTarget
  | some table =>
    match draft.joinColumns with
    | [joined, owning] =>
      if joined ≠ "" ∧ owning ≠ "" then .ok ⟨table, joined, owning⟩
      else .error (.joinColumns ([joined, owning].countP (· ≠ "")))
    | columns => .error (.joinColumns (columns.countP (· ≠ "")))

/-- The tag that the segments amount to. -/
def Draft.finish (draft : Draft) : Except TagError Tag :=
  if draft.operator = .join then
    match draft.joinTarget with
    | .ok target => .ok ⟨draft.operator, draft.column, draft.table, some target, draft.group⟩
    | .error e => .error e
  else .ok ⟨draft.operator, draft.column, draft.table, none, draft.group⟩

/-- Reads a tag. The answer `none` is a tag that skips its field, which hides every error the
text may have. -/
def parse (text : String) : Except TagError (Option Tag) :=
  let text := Text.trimChars text.toList
  if text = ['-'] then .ok none
  else
    let parts := segments text
    if skips parts then .ok none
    else
      match Draft.empty.addAll parts with
      | .error e => .error e
      | .ok draft =>
        match draft.finish with
        | .error e => .error e
        | .ok tag => .ok (some tag)

end Tag

end SqlFilter
