import SchemaTree.Kind
import SchemaTree.Constraint

/-!
# Trees of schema nodes

* `Attributes`, `Node`: a node is its attributes and its children, which are properties below an
  object and the item below an array; no structure is enforced;
* `Node.descendant?`: the node that numbers of children lead to;
* the builder: `Node.ofKind` and the functions that change one attribute or add a child.
-/

namespace SchemaTree

/-- What a node says about itself. -/
structure Attributes where
  kind : Kind
  name : String := ""
  typeName : Option String := none
  required : Bool := true
  title : Option String := none
  description : Option String := none
  defaultValue : Option Json := none
  constraint : Option Constraint := none
  scale : Option Nat := none

/-- A node of a schema tree. -/
inductive Node where
  | mk (attributes : Attributes) (children : List Node)

namespace Node

/-- What the node says about itself. -/
def attributes : Node → Attributes
  | mk attributes _ => attributes

/-- The nodes below. -/
def children : Node → List Node
  | mk _ children => children

variable (n : Node)

/-- The kind of value that the node describes. -/
def kind : Kind := n.attributes.kind

/-- The name of the node among the properties of its parent. -/
def name : String := n.attributes.name

/-- The declared name of the node's type. -/
def typeName : Option String := n.attributes.typeName

/-- Whether a value has to be there. -/
def isRequired : Bool := n.attributes.required

/-- The item of an array: its first child. -/
def item? : Option Node := n.children.head?

/-- The node that numbers of children lead to. -/
def descendant? : Node → List Nat → Option Node
  | n, [] => some n
  | n, i :: is => n.children[i]?.bind fun c => c.descendant? is

/-! ## Building -/

/-- A required node without a name or children. -/
def ofKind (kind : Kind) : Node := mk { kind } []

/-- The node with changed attributes. -/
def withAttributes (f : Attributes → Attributes) : Node := mk (f n.attributes) n.children

/-- The node under a name. -/
def named (name : String) : Node := n.withAttributes fun a => { a with name }

/-- The node with a declared type name. -/
def withTypeName (typeName : String) : Node := n.withAttributes fun a => { a with typeName }

/-- The node as one that may be missing. -/
def optional : Node := n.withAttributes fun a => { a with required := false }

/-- The node with a title. -/
def withTitle (title : String) : Node := n.withAttributes fun a => { a with title }

/-- The node with a description. -/
def withDescription (description : String) : Node :=
  n.withAttributes fun a => { a with description }

/-- The node with a default, which may be null. -/
def withDefault (defaultValue : Json) : Node := n.withAttributes fun a => { a with defaultValue }

/-- The node with one more constraint, which holds together with an earlier one. -/
def withConstraint (c : Constraint) : Node :=
  n.withAttributes fun a =>
    { a with constraint := some (match a.constraint with
      | none => c
      | some earlier => earlier.and c) }

/-- The node with a number of decimal places. -/
def withScale (scale : Nat) : Node := n.withAttributes fun a => { a with scale }

/-- The node with one more child. -/
def child (c : Node) : Node := mk n.attributes (n.children ++ [c])

/-- The node with one more child, under the given name. -/
def field (name : String) (c : Node) : Node := n.child (c.named name)

end Node

end SchemaTree
