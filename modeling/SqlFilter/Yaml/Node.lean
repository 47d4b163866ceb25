import SqlFilter.Yaml.Tree

/-!
# Nodes

The data in a document, with every alias replaced by what it leads to. Aliases make it possible to
write endless data, or data far larger than its text, so there are two limits: collections are
nested at most 128 deep, and aliases are followed at most a hundred times for each part of the
tree.

## Main definitions

* `Node`: scalars, sequences and mappings.
* `Tree.toNode?`: the data that a tree stands for.
* `Node.ofText?`: the data in a text.
-/

namespace SqlFilter.Yaml

/-- A piece of data. -/
inductive Node where
  | scalar (tag : Option String) (isPlain : Bool) (text : String)
  | sequence (tag : Option String) (items : List Node)
  | mapping (tag : Option String) (entries : List (Node × Node))

namespace Tree

/-! ## Anchors -/

mutual
/-- The nodes with an anchor, each before those inside it. -/
def anchored : Tree → List (Nat × Tree)
  | .alias _ => []
  | .scalar p isPlain text => (p.anchor.map fun n => (n, scalar p isPlain text)).toList
  | .sequence p items => (p.anchor.map fun n => (n, sequence p items)).toList ++ anchoredItems items
  | .mapping p entries =>
    (p.anchor.map fun n => (n, mapping p entries)).toList ++ anchoredEntries entries

/-- The nodes with an anchor in a list of items. -/
def anchoredItems : List Tree → List (Nat × Tree)
  | [] => []
  | item :: items => anchored item ++ anchoredItems items

/-- The nodes with an anchor in a list of entries. -/
def anchoredEntries : List (Tree × Tree) → List (Nat × Tree)
  | [] => []
  | entry :: entries => anchoredEntry entry ++ anchoredEntries entries

/-- The nodes with an anchor in an entry. -/
def anchoredEntry : Tree × Tree → List (Nat × Tree)
  | (key, value) => anchored key ++ anchored value
end

/-- What an alias leads to. If several nodes have its number it is the last of them. -/
def target? (nodes : List (Nat × Tree)) (anchor : Nat) : Option Tree :=
  nodes.reverse.lookup anchor

/-! ## Size -/

mutual
/-- How many parts a tree has: its scalars and aliases, and the two ends of its collections. -/
def size : Tree → Nat
  | .alias _ => 1
  | .scalar _ _ _ => 1
  | .sequence _ items => 2 + sizeItems items
  | .mapping _ entries => 2 + sizeEntries entries

/-- The parts of a list of items. -/
def sizeItems : List Tree → Nat
  | [] => 0
  | item :: items => size item + sizeItems items

/-- The parts of a list of entries. -/
def sizeEntries : List (Tree × Tree) → Nat
  | [] => 0
  | entry :: entries => sizeEntry entry + sizeEntries entries

/-- The parts of an entry. -/
def sizeEntry : Tree × Tree → Nat
  | (key, value) => size key + size value
end

/-! ## Following aliases -/

/-- How deep collections may be nested. -/
def maxDepth : Nat := 128

/-- How often aliases may be followed for each part of a tree. -/
def maxRepetition : Nat := 100

/-- Following an alias, while the count of those that may be followed lasts. -/
abbrev Expanding := StateT Nat Option

/-- Counts an alias that is followed. -/
def spend : Expanding Unit := do
  match ← get with
  | 0 => failure
  | n + 1 => set n

/-- The tree that an alias leads to, and any other tree itself. -/
def follow (nodes : List (Nat × Tree)) : Tree → Expanding Tree
  | .alias anchor => do
    spend
    match target? nodes anchor with
    | some t => return t
    | none => failure
  | t => return t

/-- The data that a tree stands for, with collections nested at most so deep. -/
def expand (nodes : List (Nat × Tree)) : Nat → Tree → Expanding Node
  | depth, t => do
    match ← follow nodes t, depth with
    | .alias _, _ => failure
    | .scalar p isPlain text, _ => return .scalar p.tag isPlain text
    | _, 0 => failure
    | .sequence p items, depth + 1 => return .sequence p.tag (← items.mapM (expand nodes depth))
    | .mapping p entries, depth + 1 =>
      let entries ← entries.mapM fun (key, value) => do
        return (← expand nodes depth key, ← expand nodes depth value)
      return .mapping p.tag entries

/-- The data that a tree stands for. -/
def toNode? (t : Tree) : Option Node :=
  ((expand t.anchored maxDepth t).run (maxRepetition * t.size)).map Prod.fst

end Tree

/-- The data in a text. It is a failure if the text is broken; the answer is nothing if nothing is
in the text. -/
def Node.ofText? (text : String) : Option (Option Node) :=
  match document? text with
  | none => none
  | some none => some none
  | some (some t) => t.toNode?.map some

end SqlFilter.Yaml
