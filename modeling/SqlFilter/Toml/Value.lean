import SqlFilter.Number.Binary

/-!
# TOML values

Values and tables of a TOML document, and how a document builds its tables up. A table may be
written in several ways, and the way decides what may still be added to it:

* a table in braces is complete;
* a table with a header of its own may get tables inside it from other headers, but no other header
  and no dotted keys from outside;
* a table that is only part of a longer header may get a header later;
* a table that dotted keys made may get more dotted keys, but no header.

No key is ever bound twice.

## Main definitions

* `Value`, `Table`, `Origin`.
* `Table.define`: binds a key, dotted or not.
* `Table.openTable`, `Table.appendTable`: headers.
-/

namespace SqlFilter.Toml

/-! ## Values -/

/-- How a table came about. -/
inductive Origin where
  /-- Written in braces. -/
  | braces
  /-- Under a header of its own. -/
  | header
  /-- As a part of a longer header. -/
  | path
  /-- By dotted keys. -/
  | dots
  deriving DecidableEq, Repr

/-- A value. Dates and times are only known to be well-formed. -/
inductive Value where
  | string (s : String)
  | integer (n : Int64)
  | float (x : Number.Double)
  | boolean (b : Bool)
  | dateTime
  | array (items : List Value)
  | table (origin : Origin) (entries : List (String × Value))
  /-- Tables that share one header, in order. -/
  | tables (items : List (List (String × Value)))

/-- The entries of a table, in the order in which their keys came up. -/
abbrev Table := List (String × Value)

namespace Table

/-- The value of a key. -/
def find? (key : String) : Table → Option Value
  | [] => none
  | (k, v) :: rest => if k = key then some v else find? key rest

/-- Puts a value in the place of a key's value, or at the end if there is none. -/
def replace (key : String) (value : Value) : Table → Table
  | [] => [(key, value)]
  | (k, v) :: rest => if k = key then (k, value) :: rest else (k, v) :: replace key value rest

/-! ## Going down -/

/-- Whether keys of some form may go into a table. -/
def admits (viaDots : Bool) : Origin → Bool
  | .braces => false
  | .header => !viaDots
  | .path | .dots => true

/-- Changes the last of several tables. -/
def changeLast (change : Table → Option Table) : List Table → Option (List Table)
  | [] => none
  | [t] => (change t).map fun t => [t]
  | t :: rest => (changeLast change rest).map (t :: ·)

/-- Changes the table that keys lead to, one below the other, making those that are missing. The
keys are those of a header, or of a dotted key. Of tables that share a header they lead to the
last. -/
def changeAt (viaDots : Bool) (change : Origin → Table → Option Table) :
    List String → Origin → Table → Option Table
  | [], origin, t => change origin t
  | key :: keys, _, t =>
    match find? key t with
    | none =>
      let origin : Origin := if viaDots then .dots else .path
      (changeAt viaDots change keys origin []).map fun inner =>
        replace key (.table origin inner) t
    | some (.table origin inner) =>
      if admits viaDots origin then
        (changeAt viaDots change keys origin inner).map fun inner =>
          replace key (.table origin inner) t
      else none
    | some (.tables items) =>
      (changeLast (changeAt viaDots change keys .header) items).map fun items =>
        replace key (.tables items) t
    | some _ => none

/-! ## Adding to a table -/

/-- Binds a key in a table that dotted keys made, if the key is dotted, and in any other table if it
is not. -/
def bind (isDotted : Bool) (key : String) (value : Value) (origin : Origin) (t : Table) :
    Option Table :=
  if (origin = .dots) ↔ isDotted then
    if (find? key t).isNone then some (t ++ [(key, value)]) else none
  else none

/-- Binds a key below other keys that are dotted together with it. -/
def define (keys : List String) (key : String) (value : Value) (origin : Origin) (t : Table) :
    Option Table :=
  changeAt true (bind (!keys.isEmpty) key value) keys origin t

/-- A header for the table of a key. -/
def openHere (key : String) (t : Table) : Option Table :=
  match find? key t with
  | none => some (t ++ [(key, .table .header [])])
  | some (.table .path inner) => some (replace key (.table .header inner) t)
  | some _ => none

/-- A header for one more of the tables of a key. -/
def appendHere (key : String) (t : Table) : Option Table :=
  match find? key t with
  | none => some (t ++ [(key, .tables [[]])])
  | some (.tables items) => some (replace key (.tables (items ++ [[]])) t)
  | some _ => none

/-- A header for the table that keys lead to. -/
def openTable (keys : List String) (key : String) (t : Table) : Option Table :=
  changeAt false (fun _ => openHere key) keys .header t

/-- A header for one more of the tables that keys lead to. -/
def appendTable (keys : List String) (key : String) (t : Table) : Option Table :=
  changeAt false (fun _ => appendHere key) keys .header t

/-- Binds a key below the header that keys make up. -/
def defineUnder (header keys : List String) (key : String) (value : Value) (t : Table) :
    Option Table :=
  changeAt false (define keys key value) header .header t

end Table

end SqlFilter.Toml
