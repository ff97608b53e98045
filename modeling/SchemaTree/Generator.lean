import SchemaTree.Conversion.State
import SchemaTree.Profile

/-!
# Generating documents

A generator looks up the converter of each node's kind. If it extracts definitions, the first
object of a named type whose conversion ends is the definition of the name, and every object of
that name is written as a reference to it.

* `Generator`, with `Generator.ofProfile`, `Generator.register`, `Generator.registerAll`;
* `Generator.resolver`: the actions that resolve a node and its descendants;
* `Generator.generate`, `Generator.generateMany`: documents; `Generator.events`;
* `resolveAt_eq`: descendants are resolved like any node.
-/

namespace SchemaTree

/-- A table of converters and its settings. -/
structure Generator where
  table : Table
  extractsDefinitions : Bool
  dialect : Option String

namespace Generator

/-! ## Settings -/

/-- The generator of a profile. -/
def ofProfile (p : Profile) : Generator := ⟨p.table, p.extractsDefinitions, p.dialect⟩

/-- The generator of draft-04. -/
def standard : Generator := ofProfile .draft4

variable (g : Generator)

/-- The generator with another converter for a kind. -/
def register (kind : Kind) (c : Converter) : Generator :=
  { g with table := OrderedMap.insert g.table kind c }

/-- The generator with other converters, a later one for a kind replacing an earlier one. -/
def registerAll (converters : List (Kind × Converter)) : Generator :=
  { g with table := OrderedMap.extend g.table converters }

/-! ## Resolving nodes -/

/-- The action that resolves a node, with those for its children. -/
inductive Resolver where
  | mk (here : Action) (children : List Resolver)

/-- The action that resolves the node itself. -/
def Resolver.here : Resolver → Action
  | mk here _ => here

/-- The resolvers of the children. -/
def Resolver.children : Resolver → List Resolver
  | mk _ children => children

/-- The resolver that numbers of children lead to. -/
def Resolver.get? : Resolver → List Nat → Option Resolver
  | r, [] => some r
  | r, i :: is => r.children[i]?.bind fun r => r.get? is

/-- The action for a descendant of a node with children `below`; where there is no such node, there
is no result. -/
def resolveAt (below : List Resolver) (i : Nat) (is : List Nat) : Action :=
  match below[i]?.bind fun r => r.get? is with
  | some r => r.here
  | none => fun s => (.ok none, s)

/-- Converts a node by the converter of its kind; a schema without keywords is no result. -/
def applyConverter (n : Node) (below : List Resolver) : Action := fun s =>
  match OrderedMap.get? g.table n.kind with
  | none => (.error ⟨n.kind, s.path⟩, s.report (.noConverter n.kind s.path))
  | some c =>
    let (r, s) := (c n).run (resolveAt below) s
    (r.map fun k => k.filter fun k => !k.isEmpty, s)

/-- The name under which the schema of a node is shared, if it is. -/
def sharedName? (n : Node) : Option String :=
  if g.extractsDefinitions && n.kind.isObject then n.typeName else none

/-- Writes a reference to a converted type, if the type has a definition. -/
def emitReference (name : String) : Action := fun s =>
  match s.definition? name with
  | none => (.ok none, s)
  | some _ => (.ok (some (Keywords.reference name)), s.report (.emittingReference name s.path))

/-- Resolves a node whose schema is shared: converts it unless its type has been converted, and
writes a reference. -/
def resolveShared (name : String) (n : Node) (below : List Resolver) : Action := fun s =>
  if s.isDefined name then emitReference name s
  else
    match g.applyConverter n below s with
    | (.error e, s) => (.error e, s)
    | (.ok k, s) => emitReference name ((s.report (.cachingDefinition name s.path)).define name k)

/-- Resolves a node. -/
def resolveNode (n : Node) (below : List Resolver) : Action :=
  match g.sharedName? n with
  | none => g.applyConverter n below
  | some name => g.resolveShared name n below

mutual

/-- The resolver of a node. -/
def resolver : Node → Resolver
  | .mk a children =>
    let below := resolvers children
    .mk (g.resolveNode (.mk a children) below) below

/-- The resolvers of a list of nodes. -/
def resolvers : List Node → List Resolver
  | [] => []
  | n :: ns => resolver n :: resolvers ns

end

/-- Resolves a node together with everything below it. -/
def resolve (n : Node) : Action := (g.resolver n).here

/-! ## Documents -/

/-- Resolves a tree from the start. -/
def run (root : Node) : Outcome × Progress := g.resolve root {}

/-- The document of a resolved root: its keywords, the definitions if there are any, and the
dialect. -/
def document (k : Keywords) (definitions : OrderedMap String Json) : Keywords :=
  let k := if definitions.isEmpty then k
    else OrderedMap.insert k "definitions" (.object definitions)
  match g.dialect with
  | none => k
  | some d => k.stamp d

/-- The document that a finished run gives; a root without a result gives null. -/
def finish : Outcome × Progress → Except ConversionError Json
  | (.error e, _) => .error e
  | (.ok none, _) => .ok .null
  | (.ok (some k), s) => .ok (.object (g.document k s.sharedSchemas))

/-- The document of a tree. -/
def generate (root : Node) : Except ConversionError Json := g.finish (g.run root)

/-- The documents of several trees, each generated on its own. -/
def generateMany (roots : List Node) : List (Except ConversionError Json) := roots.map g.generate

/-- What the conversion of a tree reports, in order. -/
def events (root : Node) : List Event := (g.run root).2.events

/-! ## Laws -/

theorem resolvers_eq_map (ns : List Node) : g.resolvers ns = ns.map g.resolver := by
  induction ns with
  | nil => rfl
  | cons n ns ih => rw [resolvers, ih, List.map_cons]

@[simp] theorem children_resolver (n : Node) :
    (g.resolver n).children = n.children.map g.resolver := by
  obtain ⟨a, children⟩ := n
  rw [resolver, ← resolvers_eq_map]
  rfl

theorem resolve_eq (n : Node) : g.resolve n = g.resolveNode n (n.children.map g.resolver) := by
  obtain ⟨a, children⟩ := n
  rw [resolve, resolver, ← resolvers_eq_map]
  rfl

theorem get?_resolver (n : Node) (is : List Nat) :
    (g.resolver n).get? is = (n.descendant? is).map g.resolver := by
  induction is generalizing n with
  | nil => rfl
  | cons i is ih =>
    rw [Resolver.get?, Node.descendant?, children_resolver, List.getElem?_map]
    cases n.children[i]? with
    | none => rfl
    | some c => exact ih c

theorem resolveAt_eq (n : Node) (i : Nat) (is : List Nat) :
    resolveAt (n.children.map g.resolver) i is =
      ((n.descendant? (i :: is)).map g.resolve).getD fun s => (.ok none, s) := by
  have hget := g.get?_resolver n (i :: is)
  rw [Resolver.get?, children_resolver] at hget
  rw [resolveAt, hget]
  cases n.descendant? (i :: is) <;> rfl

theorem resolveAt_resolvers {n c : Node} {i : Nat} {is : List Nat}
    (h : n.descendant? (i :: is) = some c) :
    resolveAt (n.children.map g.resolver) i is = g.resolve c := by
  rw [resolveAt_eq, h]
  rfl

end Generator

end SchemaTree
