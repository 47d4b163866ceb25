import SqlFilter.Filter
import SqlFilter.Tag

/-!
# Why a filter does not compile

Four things can be wrong with a filter: a field without a tag holds something that is not a
filter, a tag cannot be read, an operator cannot take the value its field holds, or filters are
nested past the limit. A malformed sort request is none of them; it sorts by nothing.
-/

namespace SqlFilter

/-- Why a filter does not compile. -/
inductive CompileError where
  | notAFilter (table field : String)
  | tag (field : String) (cause : TagError)
  | unsupportedValue (field : String) (operator : Operator) (kind : ValueKind)
  | tooDeep (max : Nat)
  deriving DecidableEq, Repr

/-- The message for a reader. -/
def CompileError.message : CompileError → String
  | .notAFilter table field => "field '" ++ field ++ "' on '" ++ table ++ "' is not a filter struct"
  | .tag field cause => "field '" ++ field ++ "': " ++ cause.message
  | .unsupportedValue field operator kind =>
    "field '" ++ field ++ "': operator '" ++ operator.name ++ "' cannot bind a " ++ kind.name ++
      " value"
  | .tooDeep max => "filter nesting exceeds maximum depth of " ++ toString max

/-- The messages of the error and of what caused it, outermost first. -/
def CompileError.messages (e : CompileError) : List String :=
  match e with
  | .tag _ cause => [e.message, cause.message]
  | _ => [e.message]

end SqlFilter
