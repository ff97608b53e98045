import SchemaTree.Proofs.Resolution

/-!
# Moments of a conversion

The converter of a node is at work from its first question to its last answer; while a descendant
that it asks for is resolved, the converters below are at work. These **moments** of a conversion,
in order, are all that converters can see of it, whatever they ask.

* `Query.moments`, `Generator.moments`, with `moments_eq`.
-/

namespace SchemaTree

open OrderedMap

/-- A moment of a conversion, at which the converter of a node is at work. -/
structure Moment where
  node : Node
  /-- The segments by which the node and those around it were entered, from the outermost on. -/
  route : Path
  progress : Progress

/-! ## Queries -/

namespace Query

section

variable {α : Type} (resolveAt : Nat → List Nat → Action)
  (below : Nat → List Nat → Segment → Progress → List Moment) (n : Node) (route : Path)

/-- The moments of a query of the converter of `n`: the start and what follows every answer. While a
descendant is resolved there are those of `below`. -/
def moments : Query α → Progress → List Moment
  | .done _, s => [⟨n, route, s⟩]
  | .fail _, s => [⟨n, route, s⟩]
  | .path next, s => ⟨n, route, s⟩ :: (next s.path).moments s
  | .isDefined name next, s => ⟨n, route, s⟩ :: (next (s.isDefined name)).moments s
  | .definition name next, s => ⟨n, route, s⟩ :: (next (s.definition? name)).moments s
  | .resolve i is segment next, s =>
    let (r, t) := s.descend segment (resolveAt i is)
    ⟨n, route, s⟩ :: (below i is segment s ++ (next r).moments t)
  | .reportSkipped property next, s =>
    ⟨n, route, s⟩ :: next.moments (s.report (.skippedProperty property s.path))

end

end Query

/-! ## Nodes -/

namespace Generator

variable (g : Generator)

/-- The moments of converting a node that was entered by `route`, if its descendants have those of
`below`. -/
def convertMoments (n : Node) (below : Nat → List Nat → Path → Progress → List Moment)
    (route : Path) (s : Progress) : List Moment :=
  match get? g.table n.kind with
  | none => []
  | some c =>
    -- What is entered here is what `Progress.descend` acts on.
    (c n).moments (resolveAt (n.children.map g.resolver))
      (fun i is segment t => below i is (route.push segment) (t.enter segment)) n route s

/-- The moments of resolving a node: none for an object whose type has been converted. -/
def nodeMoments (n : Node) (below : Nat → List Nat → Path → Progress → List Moment)
    (route : Path) (s : Progress) : List Moment :=
  if (g.sharedName? n).any s.isDefined then [] else g.convertMoments n below route s

/-- The moments of resolving a node that was entered by `route`, in order. Where there is no node,
there are none. -/
def moments (n : Node) : Path → Progress → List Moment := n.fold g.nodeMoments fun _ _ => []

/-- The moments of resolving a descendant of a node. -/
def momentsBelow (n : Node) (i : Nat) (is : List Nat) : Path → Progress → List Moment :=
  ((n.descendant? (i :: is)).map g.moments).getD fun _ _ => []

theorem moments_eq (n : Node) : g.moments n = g.nodeMoments n (g.momentsBelow n) :=
  Node.fold_eq g.nodeMoments _ n

end Generator

end SchemaTree
