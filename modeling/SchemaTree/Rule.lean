import SchemaTree.Json.Basic
import SchemaTree.Node

/-!
# Rules for constraints

A rule gives the keywords for one constraint on a node, or does not apply to it.

* `Rule.length`, `Rule.range`, `Rule.textForm`, `Rule.choices`, `Rule.nullableChoices`;
* `Rule.firstKeywords?`: the first rule of a list that gives any keywords;
* `Rule.collect`: the keywords for all leaves of a constraint, later ones winning.
-/

namespace SchemaTree

/-- The keywords for one constraint on a node, if the rule applies to it. -/
abbrev Rule := Node → Constraint → Option Keywords

namespace Rule

/-- The entry of a bound that may be open. -/
def boundEntry {α : Type} (key : String) (value : α → Json) (bound : Option α) : Keywords :=
  (bound.map fun b => (key, value b)).toList

/-- The bounds of a length under the given keys, the greatest length first. -/
def length (maxKey minKey : String) : Rule
  | _, .length min max =>
    let number (n : Nat) : Json := .number (.int n)
    some (OrderedMap.extend (boundEntry maxKey number max) (boundEntry minKey number min))
  | _, _ => none

/-- The length of a string. -/
def stringLength : Rule := length "maxLength" "minLength"

/-- The length of an array. -/
def arrayLength : Rule := length "maxItems" "minItems"

/-- The bounds of a number. -/
def range : Rule
  | _, .range min max => some (boundEntry "minimum" .number min ++ boundEntry "maximum" .number max)
  | _, _ => none

/-- The form of a text: a pattern, or the name of a format. -/
def textForm : Rule
  | _, .regex p => some [("pattern", .string p.text)]
  | _, .email => some [("format", .string "email")]
  | _, .url => some [("format", .string "uri")]
  | _, _ => none

/-- The choices as they are. -/
def choices : Rule
  | _, .oneOf values => some [("enum", .array values)]
  | _, _ => none

/-- The choices, and after them the given values if the node may be missing. -/
def nullableChoices (nullValues : List Json) : Rule
  | n, .oneOf values =>
    some [("enum", .array (if n.isRequired then values else values ++ nullValues))]
  | _, _ => none

/-- The choices of a string, which may be empty or null if it may be missing. -/
def stringChoices : Rule := nullableChoices [.string "", .null]

/-- The choices of a number, which may be null if it may be missing. -/
def numberChoices : Rule := nullableChoices [.null]

/-- The same keywords for every constraint of some sort. -/
def fixed (applies : Constraint → Bool) (keywords : Keywords) : Rule :=
  fun _ c => if applies c then some keywords else none

/-! ## Lists of rules -/

/-- What the first rule that gives any keywords says about a constraint; a rule that applies and
gives none is passed over. -/
def firstKeywords? (rules : List Rule) (n : Node) (c : Constraint) : Option Keywords :=
  rules.findSome? fun rule => (rule n c).filter fun k => !k.isEmpty

/-- The keywords for a constraint that is no conjunction. -/
def leafKeywords (rules : List Rule) (n : Node) (c : Constraint) : Keywords :=
  (firstKeywords? rules n c).getD []

/-- The keywords for every leaf of a constraint, in order; a later leaf replaces the value of an
earlier one and keeps its place. -/
def collect (rules : List Rule) (n : Node) : Option Constraint → Keywords
  | none => []
  | some c => c.leaves.foldl (fun acc leaf => OrderedMap.extend acc (leafKeywords rules n leaf)) []

end Rule

end SchemaTree
