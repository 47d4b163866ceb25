import SqlFilter.Compile.Emission

/-!
# Compiling a filter

A filter is walked field by field, in order, and a condition goes along: each field takes the
condition that the fields before it left and adds to it. A field without a tag must hold a filter,
whose fields are then walked in its place, or nothing. A field with a tag is skipped if its tag
says so or its value is zero; otherwise it contributes a clause, and a join is followed by the
fields of the filter it holds, in the scope of the join. The walk stops at the first thing that is
wrong, and what was registered until then stays.

The tag of every field that is reached is read, so a broken tag is an error even on a field that
is zero.

## Main definitions

* `Resolution`: the condition after a walk, and the error that stopped it.
* `Compiler.walk`: the walk of a filter.
* `Compiler.resolve`, `Compiler.compile`: the walk from the outermost filter.
-/

namespace SqlFilter

/-! ## Outcomes of a walk -/

/-- A condition after a walk, and the error that stopped the walk. What was registered before the
error stays. -/
structure Resolution where
  condition : Condition
  error : Option CompileError

namespace Resolution

/-- A walk that went through. -/
def ok (condition : Condition) : Resolution := ⟨condition, none⟩

/-- A walk that stopped. -/
def fail (e : CompileError) (condition : Condition) : Resolution := ⟨condition, some e⟩

/-- Goes on with another walk, unless this one stopped. -/
def andThen (r : Resolution) (next : Condition → Resolution) : Resolution :=
  match r.error with
  | some _ => r
  | none => next r.condition

end Resolution

/-- A walk in the scope of a join, which is opened if it is not there. -/
def Condition.walkScope (on : String) (walk : Condition → Resolution) (condition : Condition) :
    Resolution :=
  let inner := walk (condition.scopeOf on)
  ⟨{ condition with joins := updateScope on (fun _ => inner.condition) condition.joins },
    inner.error⟩

/-! ## The walk -/

/-- How deep filters may be nested unless something else is said. -/
def defaultMaxDepth : Nat := 32

/-- What a filter is compiled for: a dialect, and how deep filters may be nested. -/
structure Compiler where
  dialect : Dialect
  maxDepth : Nat := defaultMaxDepth
  deriving DecidableEq, Repr

namespace Compiler

/-- The column that a tag says, or the one that the field is named for, in the tag's table or the
one in force. -/
def target (tag : Tag) (table name : String) : Target :=
  ⟨tag.table.getD table, tag.column.getD (snakeCase name)⟩

mutual
/-- The walk of a filter at a depth. A filter without a table is about the table around it. -/
def walk (c : Compiler) (depth : Nat) (parent : String) : Filter → Condition → Resolution
  | ⟨table, fields⟩, condition =>
    if c.maxDepth < depth then .fail (.tooDeep c.maxDepth) condition
    else c.walkFields depth (if table = "" then parent else table) fields condition

/-- The walk of fields, in order. -/
def walkFields (c : Compiler) (depth : Nat) (table : String) :
    List Field → Condition → Resolution
  | [], condition => .ok condition
  | field :: rest, condition =>
    (c.walkField depth table field condition).andThen (c.walkFields depth table rest)

/-- The walk of one field. -/
def walkField (c : Compiler) (depth : Nat) (table : String) : Field → Condition → Resolution
  | ⟨name, none, _, value⟩, condition => c.walkUntagged depth table name value condition
  | ⟨name, some text, isZero, value⟩, condition =>
    match Tag.parse text with
    | .error e => .fail (.tag name e) condition
    | .ok none => .ok condition
    | .ok (some tag) =>
      if isZero then .ok condition
      else
        match emit c.dialect tag (target tag table name) name value with
        | .error e => .fail e condition
        | .ok (.predicate p) => .ok (condition.addPredicate tag.group p)
        | .ok (.order term) => .ok (condition.addOrder term)
        | .ok .nothing => .ok condition
        | .ok (.join on joined) => condition.walkScope on (c.walkInner depth joined value)

/-- The walk of a field without a tag. -/
def walkUntagged (c : Compiler) (depth : Nat) (table name : String) :
    FieldValue → Condition → Resolution
  | .nested inner, condition => c.walk (depth + 1) table inner condition
  | .null, condition => .ok condition
  | _, condition => .fail (.notAFilter table name) condition

/-- The walk of a filter that a value holds; other values have nothing to walk. -/
def walkInner (c : Compiler) (depth : Nat) (table : String) :
    FieldValue → Condition → Resolution
  | .nested inner, condition => c.walk (depth + 1) table inner condition
  | _, condition => .ok condition
end

/-! ## The outermost filter -/

/-- Resolves a filter into a condition. Fields of a filter without a table are about `parent`. -/
def resolve (c : Compiler) (f : Filter) (condition : Condition) (parent : String) : Resolution :=
  c.walk 0 parent f condition

/-- Resolves a filter into the scope at the end of a path of joins, which is opened if it is not
there. -/
def resolveAt (c : Compiler) : (path : List String) → (f : Filter) → (condition : Condition) →
    (parent : String) → Resolution
  | [], f, condition, parent => c.resolve f condition parent
  | on :: path, f, condition, parent =>
    condition.walkScope on fun scope => c.resolveAt path f scope parent

/-- The condition of a filter. -/
def compile (c : Compiler) (f : Filter) : Except CompileError Condition :=
  let outcome := c.resolve f .empty f.table
  match outcome.error with
  | some e => .error e
  | none => .ok outcome.condition

end Compiler

end SqlFilter
