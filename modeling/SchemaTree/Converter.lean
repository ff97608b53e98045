import SchemaTree.Step

/-!
# Converters

A converter gives the schema of a node, or nothing.

* `Recipe`: starts with the type and then does keyword steps in order;
* `Converter.const`, `Converter.failing`, `Converter.ifTypeName`, `Converter.childSchemas`.
-/

namespace SchemaTree

/-- Gives the schema of a node, or nothing. -/
abbrev Converter := Node → Query (Option Keywords)

/-- A converter made of keyword steps. -/
structure Recipe where
  typeName : String
  steps : List Step

namespace Recipe

/-- The keywords of a node after some steps. -/
def applySteps (n : Node) (k : Keywords) : List Step → Query Keywords
  | [] => pure k
  | step :: steps => do applySteps n (← step n k) steps

/-- Starts with the type and does the steps. -/
def toConverter (c : Recipe) : Converter := fun n => do
  return some (← applySteps n [("type", .string c.typeName)] c.steps)

end Recipe

namespace Converter

/-- Always gives the same. -/
def const (result : Option Keywords) : Converter := fun _ => pure result

/-- Always fails, as if no converter were registered. -/
def failing : Converter := fun n => do .fail ⟨n.kind, ← Query.currentPath⟩

/-- Converts nodes of one declared type name in a way of their own. -/
def ifTypeName (name : String) (yes no : Converter) : Converter := fun n =>
  if n.typeName = some name then yes n else no n

/-- The segment that leads to a child: a child without a name is an item. -/
def childSegment (c : Node) : Segment := if c.name.isEmpty then .items else .property c.name

/-- The schemas of children from number `i` on; null stands for no schema. -/
def resolveAll (i : Nat) : List Node → Query (List Json)
  | [] => pure []
  | c :: cs => do
    let k ← Query.resolveChild i (childSegment c)
    return (k.map Json.object).getD .null :: (← resolveAll (i + 1) cs)

/-- The schemas of all children, in order, under one key. -/
def childSchemas (key : String) : Converter := fun n => do
  return some [(key, .array (← resolveAll 0 n.children))]

end Converter

end SchemaTree
