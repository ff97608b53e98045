/-!
# Paths

A path leads from the root of a tree to one of its nodes: into a property of an object, or into the
item of an array.

* `Segment`, `Path`, with `Path.append_push`, `Path.push_append`;
* `Path.text`: properties are set off by dots, items are `[]`, the root is the empty text;
* `Path.describe`: the same, with a word for the root.
-/

namespace SchemaTree

/-- One step of a path. -/
inductive Segment where
  | property (name : String)
  | items
  deriving DecidableEq, Repr

/-- The steps from the root to a node. -/
abbrev Path := List Segment

namespace Segment

/-- The text of a segment that begins a path. -/
def text : Segment → String
  | property name => name
  | items => "[]"

/-- The text of a segment that continues a path. -/
def continuedText : Segment → String
  | property name => "." ++ name
  | items => "[]"

end Segment

namespace Path

/-- The path one step below `p`. -/
def push (p : Path) (s : Segment) : Path := p ++ [s]

theorem append_push (p q : Path) (s : Segment) : push (p ++ q) s = p ++ push q s :=
  List.append_assoc p q [s]

theorem push_append (p q : Path) (s : Segment) : p.push s ++ q = p ++ s :: q :=
  List.append_assoc p [s] q

/-- The text of the segments after the first. -/
def continuedText : Path → String
  | [] => ""
  | s :: p => s.continuedText ++ continuedText p

/-- The text of a path. -/
def text : Path → String
  | [] => ""
  | s :: p => s.text ++ continuedText p

/-- The text of a path in a message. -/
def describe (p : Path) : String := if p.isEmpty then "(root)" else text p

end Path

end SchemaTree
