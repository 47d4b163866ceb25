import SqlFilter.Definition.Reading
import SqlFilter.Disk

/-!
# Definition files

Loading a definition from a file: reading the file, reading the definition in it, and looking for
faults. Each of the three can go wrong, and the message always names the file.
-/

namespace SqlFilter

/-- Why a definition could not be loaded. -/
inductive LoadError where
  | unreadable (path : String) (cause : Refusal)
  /-- The text is no definition. The message does not go into what is wrong with the text. -/
  | unparsable (path : String)
  | invalid (path : String) (fault : DefinitionError)
  deriving DecidableEq, Repr

/-- The messages of the error and of what caused it, outermost first. -/
def LoadError.messages : LoadError → List String
  | .unreadable path cause => ["Failed to read filter file: " ++ path, cause.message]
  | .unparsable path => ["Failed to parse filter file: " ++ path]
  | .invalid path fault => ["Invalid filter file: " ++ path, fault.message]

/-- The definition in the text of a file. -/
def Definition.load (path text : String) : Except LoadError Definition :=
  match Definition.ofText? text with
  | none => .error (.unparsable path)
  | some d =>
    match d.fault? with
    | some fault => .error (.invalid path fault)
    | none => .ok d

/-- The definition in a file. -/
def Disk.loadDefinition (d : Disk) (path : String) : Except LoadError Definition :=
  match d.read path with
  | .error e => .error (.unreadable path e)
  | .ok text => Definition.load path text

/-- A definition with comments, for a reader to start from. -/
def exampleDefinition : String :=
  "# qfilter filter definition
#
# Each field carries a query tag: type:<op>;column:<name>;table:<name>
# Operators: eq gt gte lt lte in like left right ilike ileft iright
#            isnull isnotnull order join

table: users
fields:
  - name: userName
    query: \"type:like\"
    value: bob

  - name: status
    query: \"type:in\"
    value: [1, 2]

  - name: sort
    query: \"type:order;column:id\"
    value: \"order[createdAt]=desc\"

  # Joined table, filtered by its own fields
  - name: orders
    query: \"type:join;join:orders;on:user_id,id\"
    filter:
      fields:
        - name: total
          query: \"type:gte\"
          value: 10
"

end SqlFilter
