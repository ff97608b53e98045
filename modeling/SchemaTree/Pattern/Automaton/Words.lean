import SchemaTree.Pattern.Automaton.Part

/-!
# Choices between words

A choice between plain words becomes a tree in which words share their beginnings. A word that ends
at a node closes what the node has so far: later words share nothing with earlier ones there, since
the earlier ones go first. So the branches of a node come in groups.

* `groups`: the words that go through a node, in groups;
* `treeSize`: the size of the tree below a node;
* `Part.ofWords`: the part for a choice between words.
-/

namespace SchemaTree

namespace Pattern

/-- A word of bytes. -/
abbrev Word := List Nat

/-- Words without the second and later ones of the empty words at the front. -/
def dropRepeatedEnds : List Word → List Word
  | [] :: [] :: ws => dropRepeatedEnds ([] :: ws)
  | ws => ws

/-- Words split at each empty word. -/
def splitAtEnds : List Word → List (List Word)
  | [] => [[]]
  | [] :: ws => [] :: splitAtEnds ws
  | w :: ws =>
    match splitAtEnds ws with
    | [] => [[w]]
    | g :: gs => (w :: g) :: gs

/-- The words that go through a node, in groups. -/
def groups (ws : List Word) : List (List Word) := splitAtEnds (dropRepeatedEnds ws)

/-- The first bytes of words, each of them once. -/
def firstBytes (ws : List Word) : List Nat := (ws.filterMap List.head?).eraseDups

/-- What comes after a byte in the words that begin with it. -/
def after (b : Nat) (ws : List Word) : List Word :=
  ws.filterMap fun
    | c :: w => if c = b then some w else none
    | [] => none

/-- The size of the state for a group with `n` branches, which keeps a list if they are several. -/
def groupSize : Nat → Size
  | 0 => .ofStates 0
  | 1 => .ofStates 1
  | n => .ofStates 1 + .ofRanges n

/-- The sum of some sizes. -/
def totalSize (ss : List Size) : Size := ss.foldr (· + ·) (.ofStates 0)

/-- The size of the tree below a node through which words of at most `height` bytes go: a fork that
leads to each group and, between two groups, to the end. A node at which all words end is the end
itself. -/
def treeSize : Nat → List Word → Size
  | 0, _ => .ofStates 0
  | height + 1, ws =>
    if ws.all List.isEmpty then .ofStates 0
    else
      let gs := groups ws
      let below := gs.map fun g =>
        totalSize ((firstBytes g).map fun b => treeSize height (after b g))
      let states := gs.map fun g => groupSize (firstBytes g).length
      let ways := (gs.filter fun g => !g.isEmpty).length + (gs.length - 1)
      totalSize below + totalSize states + .ofStates 1 + .ofWays ways

/-- The part for a choice between words: their tree, and the end. -/
def Part.ofWords (ws : List Word) : Part :=
  .fixed (.ofStates 1 + treeSize (((ws.map List.length).max?).getD 0) ws)

end Pattern

end SchemaTree
