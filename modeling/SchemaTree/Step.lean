import SchemaTree.Conversion.Query
import SchemaTree.Rule

/-!
# Keyword steps

A step adds keywords to the schema of a node. Steps are done in order, each on the keywords that
the earlier ones left.

* `Step.plainBase`, `Step.fullBase`: description and default, also null as a type and the title;
* `Step.nonEmpty`, `Step.format`, `Step.decimal`, `Step.rules`;
* `Step.properties`, `Step.items`: the schemas of the children;
* `Step.put`, `Step.remove`, `Step.recordPath`, `Step.recordDefinition`.
-/

namespace SchemaTree

/-- Adds keywords to the schema of a node. -/
abbrev Step := Node → Keywords → Query Keywords

namespace Step

/-- The step that changes keywords without a question. -/
def ofFunction (f : Node → Keywords → Keywords) : Step := fun n k => pure (f n k)

/-- Stores a value that may be missing. -/
def insertSome (k : Keywords) (key : String) (value : Option Json) : Keywords :=
  match value with
  | none => k
  | some v => OrderedMap.insert k key v

/-! ## Keywords of every kind -/

/-- Allows null beside the type of a node that may be missing. -/
def allowNull (n : Node) (k : Keywords) : Keywords :=
  if n.isRequired then k
  else match OrderedMap.get? k "type" with
    | none => k
    | some t => OrderedMap.insert k "type" (.array [t, .string "null"])

/-- Adds the title. -/
def addTitle (n : Node) (k : Keywords) : Keywords :=
  insertSome k "title" (n.attributes.title.map .string)

/-- Adds the description and the default. -/
def annotate (n : Node) (k : Keywords) : Keywords :=
  insertSome (insertSome k "description" (n.attributes.description.map .string))
    "default" n.attributes.defaultValue

/-- Description and default. -/
def plainBase : Step := ofFunction annotate

/-- Null for a node that may be missing, title, description and default. -/
def fullBase : Step := ofFunction fun n k => annotate n (addTitle n (allowNull n k))

/-! ## Keywords of leaves -/

/-- A required string is not empty. -/
def nonEmpty : Step := ofFunction fun n k =>
  if n.isRequired then OrderedMap.insert k "minLength" (.number (.int 1)) else k

/-- A format, whatever the constraints. -/
def format (format : String) : Step := ofFunction fun _ k =>
  OrderedMap.insert k "format" (.string format)

/-- The pattern of signed decimals with at most `scale` places; without a scale, and with none, any
number of places is allowed. -/
def decimalPattern (scale : Option Nat) : String :=
  let places := match scale with
    | some (n + 1) => "\x7b0," ++ toString (n + 1) ++ "\x7d"
    | _ => "*"
  "^[-+]?[0-9]+(\\.[0-9]" ++ places ++ ")?$"

/-- The pattern of decimals; a node without a scale has the default one. -/
def decimal (defaultScale : Option Nat) : Step := ofFunction fun n k =>
  OrderedMap.insert k "pattern" (.string (decimalPattern (n.attributes.scale <|> defaultScale)))

/-- The keywords that rules give for the constraint of the node. -/
def rules (rs : List Rule) : Step := ofFunction fun n k =>
  OrderedMap.extend k (Rule.collect rs n n.attributes.constraint)

/-! ## Children -/

/-- The names of the required nodes of a list, in order. -/
def requiredNames (children : List Node) : List String :=
  (children.filter Node.isRequired).map Node.name

/-- The schemas of children from number `i` on, under their names, after the schemas `acc`. A child
without a schema is reported and left out. -/
def gatherProperties (i : Nat) (acc : OrderedMap String Json) :
    List Node → Query (OrderedMap String Json)
  | [] => pure acc
  | c :: cs => do
    match ← Query.resolveChild i (.property c.name) with
    | none =>
      Query.noteSkipped c.name
      gatherProperties (i + 1) acc cs
    | some k => gatherProperties (i + 1) (OrderedMap.insert acc c.name (.object k)) cs

/-- The properties of an object, and the names of the required ones. -/
def properties : Step := fun n k => do
  let schemas ← gatherProperties 0 [] n.children
  let k := OrderedMap.insert k "properties" (.object schemas)
  match requiredNames n.children with
  | [] => return k
  | names => return OrderedMap.insert k "required" (.array (names.map .string))

/-- The item of an array: its first child. -/
def items : Step := fun n k =>
  match n.item? with
  | none => pure k
  | some _ => do return insertSome k "items" ((← Query.resolveChild 0 .items).map .object)

/-! ## Other keywords -/

/-- Stores a value under a key. -/
def put (key : String) (value : Json) : Step := ofFunction fun _ k => OrderedMap.insert k key value

/-- Removes a key. -/
def remove (key : String) : Step := ofFunction fun _ k => OrderedMap.erase k key

/-- Stores the text of the current path under a key. -/
def recordPath (key : String) : Step := fun _ k => do
  return OrderedMap.insert k key (.string (← Query.currentPath).text)

/-- Stores whether a type has been converted, and its definition or null. -/
def recordDefinition (name definedKey definitionKey : String) : Step := fun _ k => do
  let k := OrderedMap.insert k definedKey (.bool (← Query.hasDefinition name))
  return OrderedMap.insert k definitionKey
    (((← Query.getDefinition name).map Json.object).getD .null)

end Step

end SchemaTree
