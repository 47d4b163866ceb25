import SqlFilter.Definition
import SqlFilter.Yaml.Core
import SqlFilter.Yaml.Node

/-!
# Reading a definition

A definition is written as a YAML mapping with the keys `table` and `fields`, and a field as one
with the keys `name`, `query`, `value` and `filter`. Only `name` must be there. No key may come
twice, and there are no others.

Names, tables and tags are texts, and take any scalar as it is spelled, so `table: 5` is the table
`5`. A value is read by its kind; a whole number that needs more than 63 bits becomes a
floating-point number if it fits into 64. Where something may be left out, a plain scalar that
stands for nothing leaves it out. Nothing at all counts as an empty mapping or sequence where one
is expected.

## Main definitions

* `Literal.ofNode?`, `Written.ofNode?`: values.
* `Definition.ofNode?`, `Definition.ofText?`.
-/

namespace SqlFilter

open Yaml (Node Core)

/-! ## Scalars -/

/-- What the tags of YAML's own types begin with. -/
def coreTag (name : String) : String := "tag:yaml.org,2002:" ++ name

/-- Whether a node is written as nothing at all. -/
def isBare : Node → Bool
  | .scalar _ true "" => true
  | _ => false

/-- The spelling of a scalar. -/
def spelling? : Node → Option String
  | .scalar _ _ text => some text
  | _ => none

/-- Whether something that may be left out is; none if the node says that it is nothing, and is
not. -/
def isAbsent? : Node → Option Bool
  | .scalar none true text => some (text = "" || Yaml.isNull text)
  | .scalar (some tag) true text =>
    if tag = coreTag "null" then (if Yaml.isNull text then some true else none) else some false
  | _ => some false

/-- The spelling of a scalar, which may be left out. -/
def spellingOrAbsent? (node : Node) : Option (Option String) :=
  match isAbsent? node with
  | none => none
  | some true => some none
  | some false => (spelling? node).map some

/-! ## Values -/

namespace Literal

/-- The literal of a whole number, if it fits into 64 bits. -/
def ofInteger? (n : Int) : Option Literal :=
  if Int64.minValue.toInt ≤ n ∧ n ≤ Int64.maxValue.toInt then some (.int (Int64.ofInt n))
  else if 0 ≤ n ∧ n.toNat < UInt64.size then some (.float (Number.Double.ofNat n.toNat))
  else none

/-- The literal of a plain scalar, unless it stands for nothing. -/
def ofPlain? (text : String) : Option Literal :=
  match Core.ofPlain text with
  | .null => none
  | .bool b => some (.bool b)
  | .integer n => ofInteger? n
  | .float x => some (.float x)
  | .text => some (.text text)

/-- The literal of a scalar with a tag. A tag of the text's own making is refused. -/
def ofTagged? (tag text : String) : Option Literal :=
  if tag = coreTag "bool" then (Yaml.boolOf? text).map .bool
  else if tag = coreTag "int" then (Yaml.integerOf? text).bind ofInteger?
  else if tag = coreTag "float" then (Yaml.floatOf? text).map .float
  else if tag = coreTag "null" || tag.startsWith "!" then none
  else some (.text text)

/-- The literal that a node spells. -/
def ofNode? : Node → Option Literal
  | .scalar none isPlain spelled => if isPlain then ofPlain? spelled else some (.text spelled)
  | .scalar (some tag) _ spelled => ofTagged? tag spelled
  | _ => none

end Literal

/-- The value that a node spells. -/
def Written.ofNode? : Node → Option Written
  | .sequence tag items =>
    if tag.any (·.startsWith "!") then none
    else (items.mapM Literal.ofNode?).map .list
  | node => (Literal.ofNode? node).map .scalar

/-- The value that a node spells, which may be left out. -/
def Written.ofNodeOrAbsent? (node : Node) : Option (Option Written) :=
  match isAbsent? node with
  | none => none
  | some true => some none
  | some false => (Written.ofNode? node).map some

/-! ## Mappings -/

/-- What has been read of a definition. -/
structure DefinitionDraft where
  table : Option String
  fields : Option (List FieldDefinition)

/-- The definition that has been read. -/
def DefinitionDraft.finish (d : DefinitionDraft) : Definition := ⟨d.table.getD "", d.fields.getD []⟩

/-- What has been read of a field. -/
structure FieldDraft where
  name : Option String
  query : Option (Option String)
  value : Option (Option Written)
  filter : Option (Option Definition)

/-- The field that has been read, if it has a name. -/
def FieldDraft.finish? (d : FieldDraft) : Option FieldDefinition :=
  d.name.map fun name => ⟨name, d.query.join, d.value.join, d.filter.join⟩

/-- What is read for a key that has not come before. -/
def onlyOnce {α : Type} (before found : Option α) : Option (Option α) :=
  if before.isSome then none else found.map some

mutual
/-- The definition that a node spells. -/
def Definition.ofNode? : Node → Option Definition
  | .mapping _ entries => (definitionEntries? ⟨none, none⟩ entries).map DefinitionDraft.finish
  | .scalar tag isPlain text => if isBare (.scalar tag isPlain text) then some .empty else none
  | .sequence _ _ => none

/-- Reads the entries of a definition. -/
def definitionEntries? (draft : DefinitionDraft) : List (Node × Node) → Option DefinitionDraft
  | [] => some draft
  | entry :: rest =>
    match definitionEntry? draft entry with
    | some draft => definitionEntries? draft rest
    | none => none

/-- Reads an entry of a definition. -/
def definitionEntry? (draft : DefinitionDraft) : Node × Node → Option DefinitionDraft
  | (key, node) =>
    match spelling? key with
    | some "table" => (onlyOnce draft.table (spelling? node)).map fun t => { draft with table := t }
    | some "fields" =>
      (onlyOnce draft.fields (fieldList? node)).map fun fs => { draft with fields := fs }
    | _ => none

/-- The fields that a node spells. -/
def fieldList? : Node → Option (List FieldDefinition)
  | .sequence _ items => fieldItems? items
  | .scalar tag isPlain text => if isBare (.scalar tag isPlain text) then some [] else none
  | .mapping _ _ => none

/-- The fields that nodes spell. -/
def fieldItems? : List Node → Option (List FieldDefinition)
  | [] => some []
  | item :: rest =>
    match fieldOf? item, fieldItems? rest with
    | some field, some fields => some (field :: fields)
    | _, _ => none

/-- The field that a node spells. -/
def fieldOf? : Node → Option FieldDefinition
  | .mapping _ entries => (fieldEntries? ⟨none, none, none, none⟩ entries).bind FieldDraft.finish?
  | .scalar _ _ _ => none
  | .sequence _ _ => none

/-- Reads the entries of a field. -/
def fieldEntries? (draft : FieldDraft) : List (Node × Node) → Option FieldDraft
  | [] => some draft
  | entry :: rest =>
    match fieldEntry? draft entry with
    | some draft => fieldEntries? draft rest
    | none => none

/-- Reads an entry of a field. -/
def fieldEntry? (draft : FieldDraft) : Node × Node → Option FieldDraft
  | (key, node) =>
    match spelling? key with
    | some "name" => (onlyOnce draft.name (spelling? node)).map fun n => { draft with name := n }
    | some "query" =>
      (onlyOnce draft.query (spellingOrAbsent? node)).map fun q => { draft with query := q }
    | some "value" =>
      (onlyOnce draft.value (Written.ofNodeOrAbsent? node)).map fun v => { draft with value := v }
    | some "filter" =>
      let filter := match isAbsent? node with
        | none => none
        | some true => some none
        | some false => (Definition.ofNode? node).map some
      (onlyOnce draft.filter filter).map fun f => { draft with filter := f }
    | _ => none
end

/-- The definition in a text. A text with nothing in it is a definition with nothing in it. -/
def Definition.ofText? (text : String) : Option Definition :=
  match Node.ofText? text with
  | none => none
  | some none => some .empty
  | some (some node) => Definition.ofNode? node

end SqlFilter
