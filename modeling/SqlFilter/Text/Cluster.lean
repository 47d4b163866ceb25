import SqlFilter.Text.ClusterTables

/-!
# What a reader sees as one character

A letter with its accents is one character to a reader, and so is a sign with the letter it
leads, or several pictographs tied by joiners. `clusters` cuts a text into these.

Only the joins that can bring a cased letter, a digit or a separator together with something
else are made. Joins among characters that are none of these (the parts of a Hangul syllable, a
pair of regional indicators, a conjunct of Indic consonants, a line break of two characters)
never change where words begin, so they are left apart.
-/

namespace SqlFilter.Text

/-- The zero-width joiner. -/
def joiner : Char := '\u200d'

/-- Whether a cluster, last character first, ends in a pictograph followed by marks and a
joiner, and so takes in a pictograph that follows. -/
def awaitsPictograph : List Char → Bool
  | [] => false
  | c :: cs =>
    c == joiner && match cs.dropWhile attachingRanges.contains with
      | [] => false
      | p :: _ => pictographRanges.contains p

/-- Whether the next character belongs to the cluster before it, which is given last character
first. -/
def joins (cluster : List Char) (next : Char) : Bool :=
  match cluster with
  | [] => false
  | last :: _ =>
    attachingRanges.contains next || leadingRanges.contains last ||
      (awaitsPictograph cluster && pictographRanges.contains next)

/-- The clusters of the rest of a text, with the current one last character first. -/
def clustersFrom (cluster : List Char) : List Char → List (List Char)
  | [] => if cluster.isEmpty then [] else [cluster.reverse]
  | c :: cs =>
    if cluster.isEmpty || joins cluster c then clustersFrom (c :: cluster) cs
    else cluster.reverse :: clustersFrom [c] cs

/-- The clusters of a text, in order. -/
def clusters (cs : List Char) : List (List Char) := clustersFrom [] cs

end SqlFilter.Text
