import SqlFilter.Source

/-!
# Filters declared as structures

A structure becomes a filter by a table and a list that gives every field its name, its tag and
the data it is filled from. The zero flags then follow from the data, and a structure nested in
another is a filter nested in a filter. An instance of `ToFilter` is such a declaration.

The structures below are a small stock of them: accounts with their roles and a page order, and
the addresses of accounts. Between them they use every way a field can be declared: with a tag and
without, optional and not, skipped, joined, nested, and in either group.

## Main definitions

* `ToFilter`, `ToFilter.toFilter`: declarations, and the filters that they make of values.
* `ToFilter.isEmpty_toFilter_iff`: when such a filter asks for nothing.
-/

namespace SqlFilter

/-- A field as it is declared: its name, its tag, and the data it is filled from. -/
structure DeclaredField where
  name : String
  tag : Option String
  source : Source

/-- Types whose values are filters of a table. -/
class ToFilter (α : Type) where
  table : String
  fields : α → List DeclaredField

namespace ToFilter

variable {α : Type} [ToFilter α]

/-- The filter that a value stands for. -/
def toFilter (a : α) : Filter :=
  ⟨table α, (fields a).map fun field => .ofSource field.name field.tag field.source⟩

/-- **A declared filter asks for nothing if none of its data does.** -/
theorem isEmpty_toFilter_iff (a : α) :
    (toFilter a).isEmpty = true ↔ ∀ field ∈ fields a, field.source.isZero = true := by
  rw [Filter.isEmpty, toFilter, List.all_map, List.all_eq_true]
  rfl

end ToFilter

/-- A declared filter as data for a field. -/
def Source.declared {α : Type} [ToFilter α] (a : α) : Source := .nested (ToFilter.toFilter a)

/-- Optional data. -/
def Source.optional {α : Type} (source : α → Source) : Option α → Source
  | none => .absent
  | some a => .present (source a)

/-! ## Accounts -/

/-- How to sort a page. It has no table, so it sorts whatever it is nested in. -/
structure PagingQuery where
  sort : String := ""

instance : ToFilter PagingQuery where
  table := ""
  fields q := [⟨"sort", some "type:order;column:id", .text q.sort⟩]

/-- Which roles to look for. -/
structure RoleQuery where
  role : String := ""
  level : List UInt8 := []

instance : ToFilter RoleQuery where
  table := "roles"
  fields q :=
    [⟨"role", some "type:eq;column:name", .text q.role⟩,
      ⟨"level", some "type:in", .list (q.level.map fun n => Source.integerValue n.toNat)⟩]

/-- Which accounts to look for. -/
structure AccountQuery where
  name : String := ""
  status : Int32 := 0
  createdAfter : Option Date := none
  live : Bool := false
  ownerId : Option Int64 := none
  role : Option RoleQuery := none
  paging : PagingQuery := {}
  remark : String := ""

instance : ToFilter AccountQuery where
  table := "accounts"
  fields q :=
    [⟨"name", some "type:like", .text q.name⟩,
      ⟨"status", some "type:gt", .integer q.status.toInt⟩,
      ⟨"created_after", some "type:gte;column:created_at", .optional .date q.createdAfter⟩,
      ⟨"live", some "type:isnull;column:deleted_at", .bool q.live⟩,
      ⟨"owner_id", some "type:eq;group:or", .optional (fun n => .integer n.toInt) q.ownerId⟩,
      ⟨"role", some "type:join;join:roles;on:account_id,id", .optional .declared q.role⟩,
      ⟨"paging", none, .declared q.paging⟩,
      ⟨"internal", some "-", .text q.remark⟩]

/-! ## Addresses -/

/-- Which addresses to look for, perhaps with conditions on their account. -/
structure AddressQuery where
  line1 : String := ""
  unitId : UInt64 := 0
  sort : String := ""
  account : Option AccountQuery := none

instance : ToFilter AddressQuery where
  table := "addresses"
  fields q :=
    [⟨"line1", some "type:eq", .text q.line1⟩,
      ⟨"unit_id", some "type:gt", .integer q.unitId.toNat⟩,
      ⟨"sort", some "type:order", .text q.sort⟩,
      ⟨"account", none, .optional .declared q.account⟩]

end SqlFilter
