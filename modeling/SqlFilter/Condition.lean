import SqlFilter.Tag
import SqlFilter.Value

/-!
# Conditions

A condition collects what filters ask for: predicates that must hold, predicates that are
alternatives, columns to sort by, and joined tables with conditions of their own.

Predicates are keyed by their text within a scope. Registering a text again replaces its
parameters and keeps its place, so that the parameters are always those of the last registration
and the order that of the first. Joins are keyed by their text in the same way: opening one again
continues in the scope that is there.

Everything that changes a condition is a `Registration`, a clause together with the path of joins
that leads to its scope. A condition is thus the outcome of a list of registrations.

## Main definitions

* `Predicate`, `Condition`, `JoinScope`.
* `Condition.addPredicate`, `addOrder`, `inScope`: the operations on one scope.
* `Registration`, `Condition.register`, `Condition.registerAll`.
* `Condition.flattenJoins`: all join scopes, each before those inside it.
-/

namespace SqlFilter

/-! ## Scopes -/

/-- SQL text with a mark for each parameter, and the parameters in the order of their marks. -/
structure Predicate where
  fragment : String
  params : List SqlValue
  deriving DecidableEq

mutual
/-- What is asked for in one scope, and in the scopes joined to it. -/
structure Condition where
  /-- Predicates that must hold. -/
  wheres : List Predicate
  /-- Predicates that are alternatives. -/
  ors : List Predicate
  /-- Sort terms, most significant first. -/
  orders : List String
  /-- Joined tables, in the order in which they were opened. -/
  joins : List JoinScope

/-- A joined table, with what is asked for in it. -/
structure JoinScope where
  /-- The whole join clause. -/
  on : String
  condition : Condition
end

mutual
/-- Whether two conditions are the same. -/
def Condition.decEq : (a b : Condition) → Decidable (a = b)
  | ⟨wheres, ors, orders, joins⟩, ⟨wheres', ors', orders', joins'⟩ =>
    have : Decidable (joins = joins') := Condition.decEqScopes joins joins'
    decidable_of_iff (wheres = wheres' ∧ ors = ors' ∧ orders = orders' ∧ joins = joins') (by simp)

/-- Whether two lists of join scopes are the same. -/
def Condition.decEqScopes : (a b : List JoinScope) → Decidable (a = b)
  | [], [] => .isTrue rfl
  | [], _ :: _ => .isFalse (by simp)
  | _ :: _, [] => .isFalse (by simp)
  | s :: rest, s' :: rest' =>
    have : Decidable (s = s') := Condition.decEqScope s s'
    have : Decidable (rest = rest') := Condition.decEqScopes rest rest'
    decidable_of_iff (s = s' ∧ rest = rest') (by simp)

/-- Whether two join scopes are the same. -/
def Condition.decEqScope : (a b : JoinScope) → Decidable (a = b)
  | ⟨on, condition⟩, ⟨on', condition'⟩ =>
    have : Decidable (condition = condition') := Condition.decEq condition condition'
    decidable_of_iff (on = on' ∧ condition = condition') (by simp)
end

instance : DecidableEq Condition := Condition.decEq

namespace Condition

/-- The condition that asks for nothing. -/
def empty : Condition := ⟨[], [], [], []⟩

instance : Inhabited Condition := ⟨empty⟩

/-- Whether nothing is asked for. An opened join asks for something even with nothing in it. -/
def isEmpty (c : Condition) : Bool :=
  c.wheres.isEmpty && c.ors.isEmpty && c.orders.isEmpty && c.joins.isEmpty

/-! ## Operations on a scope -/

/-- Puts a predicate into a list that is keyed by fragment. -/
def upsert (p : Predicate) : List Predicate → List Predicate
  | [] => [p]
  | q :: qs => if q.fragment = p.fragment then p :: qs else q :: upsert p qs

/-- Registers a predicate in its group. -/
def addPredicate (c : Condition) (group : Group) (p : Predicate) : Condition :=
  match group with
  | .and => { c with wheres := upsert p c.wheres }
  | .or => { c with ors := upsert p c.ors }

/-- Adds a sort term after those that are there. -/
def addOrder (c : Condition) (term : String) : Condition :=
  { c with orders := c.orders ++ [term] }

/-- Changes the scope of a join, which is opened at the end if it is not there. -/
def updateScope (on : String) (change : Condition → Condition) :
    List JoinScope → List JoinScope
  | [] => [⟨on, change empty⟩]
  | s :: rest =>
    if s.on = on then ⟨s.on, change s.condition⟩ :: rest else s :: updateScope on change rest

/-- The scope of a join as it stands, empty if the join is not open. -/
def scopeOf (on : String) (c : Condition) : Condition :=
  match c.joins.find? (·.on = on) with
  | some s => s.condition
  | none => empty

/-- Changes the scope at the end of a path of joins, opening what is not there. -/
def inScope (change : Condition → Condition) : List String → Condition → Condition
  | [], c => change c
  | on :: path, c => { c with joins := updateScope on (inScope change path) c.joins }

end Condition

/-! ## Registrations -/

/-- What a registration adds to its scope. -/
inductive Clause where
  | predicate (group : Group) (p : Predicate)
  | order (term : String)
  /-- Nothing but the scope itself. -/
  | scope
  deriving DecidableEq

/-- A clause and the path of joins to the scope that it is meant for. -/
structure Registration where
  path : List String
  clause : Clause
  deriving DecidableEq

/-- The same registration, one join further down. -/
def Registration.under (on : String) (r : Registration) : Registration :=
  ⟨on :: r.path, r.clause⟩

namespace Condition

/-- Adds a clause to this scope. -/
def addClause (clause : Clause) (c : Condition) : Condition :=
  match clause with
  | .predicate group p => c.addPredicate group p
  | .order term => c.addOrder term
  | .scope => c

/-- Carries out a registration. -/
def register (c : Condition) (r : Registration) : Condition :=
  inScope (addClause r.clause) r.path c

/-- Carries out registrations in order. -/
def registerAll (c : Condition) (rs : List Registration) : Condition := rs.foldl register c

/-! ## Views -/

mutual
/-- All join scopes, each before those inside it. -/
def flattenJoins : Condition → List JoinScope
  | ⟨_, _, _, joins⟩ => flattenScopes joins

/-- The scopes of a list of joins, each before those inside it. -/
def flattenScopes : List JoinScope → List JoinScope
  | [] => []
  | s :: rest => s :: (flattenScope s ++ flattenScopes rest)

/-- The scopes inside one join. -/
def flattenScope : JoinScope → List JoinScope
  | ⟨_, condition⟩ => flattenJoins condition
end

/-- The scopes in the order in which a statement takes their clauses: the joined ones, each
before those inside it, and the root last. -/
def scopes (c : Condition) : List Condition := c.flattenJoins.map JoinScope.condition ++ [c]

/-! ## JSON -/

/-- Predicates as an object from text to parameters. -/
def predicatesJson (ps : List Predicate) : Json :=
  .object (ps.map fun p => (p.fragment, .array (p.params.map SqlValue.json)))

mutual
/-- A condition as JSON; joins are left out if there are none. -/
def json : Condition → Json
  | ⟨wheres, ors, orders, []⟩ =>
    .object [("where", predicatesJson wheres), ("or", predicatesJson ors),
      ("order", .array (orders.map .string))]
  | ⟨wheres, ors, orders, s :: rest⟩ =>
    .object [("where", predicatesJson wheres), ("or", predicatesJson ors),
      ("order", .array (orders.map .string)), ("joins", .array (scopesJson (s :: rest)))]

/-- Join scopes as JSON. -/
def scopesJson : List JoinScope → List Json
  | [] => []
  | s :: rest => scopeJson s :: scopesJson rest

/-- A join scope as JSON. Every join keeps the rows of the table on its left. -/
def scopeJson : JoinScope → Json
  | ⟨on, condition⟩ =>
    .object [("kind", .string "left"), ("on", .string on), ("condition", json condition)]
end

end Condition

end SqlFilter
