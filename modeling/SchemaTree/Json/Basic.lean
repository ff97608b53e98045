import SchemaTree.OrderedMap
import SchemaTree.Binary64

/-!
# JSON values

JSON values whose objects keep the order of their members. Integers and doubles are different
numbers, also where they are equal in size: `1` is not `1.0`. The keywords of a schema are an ordered
map of JSON values.

* `Number`, `Json`;
* `Json.beq`, with `Json.beq_iff_eq`: equality of values is decidable;
* `Keywords`, with `Keywords.reference`: the schema that stands for a definition. In the pointer to a
  definition a tilde in the name is written `~0` and a slash `~1`;
* `Keywords.stamp`: a document with its dialect.
-/

namespace SchemaTree

/-- A JSON number: an integer, or a finite double. -/
inductive Number where
  | int (n : Int)
  | float (x : Binary64)
  deriving DecidableEq, Repr

/-- A JSON value; the members of an object are an ordered map. -/
inductive Json where
  | null
  | bool (b : Bool)
  | number (n : Number)
  | string (s : String)
  | array (elements : List Json)
  | object (members : List (String × Json))
  deriving Repr, Inhabited

namespace Json

/-! ## Equality -/

mutual

/-- Whether two values are equal. -/
def beq : Json → Json → Bool
  | .null, .null => true
  | .bool a, .bool b => a == b
  | .number a, .number b => a == b
  | .string a, .string b => a == b
  | .array a, .array b => beqElements a b
  | .object a, .object b => beqMembers a b
  | _, _ => false

/-- Whether two lists of values are equal. -/
def beqElements : List Json → List Json → Bool
  | [], [] => true
  | a :: as, b :: bs => beq a b && beqElements as bs
  | _, _ => false

/-- Whether two lists of members are equal. -/
def beqMembers : List (String × Json) → List (String × Json) → Bool
  | [], [] => true
  | (k, a) :: as, (l, b) :: bs => k == l && beq a b && beqMembers as bs
  | _, _ => false

end

mutual

theorem beq_iff_eq : ∀ a b : Json, beq a b = true ↔ a = b
  | .null, b => by cases b <;> simp [beq]
  | .bool _, b => by cases b <;> simp [beq]
  | .number _, b => by cases b <;> simp [beq]
  | .string _, b => by cases b <;> simp [beq]
  | .array as, b => by cases b <;> simp [beq, beqElements_iff_eq as]
  | .object as, b => by cases b <;> simp [beq, beqMembers_iff_eq as]

theorem beqElements_iff_eq : ∀ as bs : List Json, beqElements as bs = true ↔ as = bs
  | [], bs => by cases bs <;> simp [beqElements]
  | a :: as, bs => by
    cases bs <;> simp [beqElements, beq_iff_eq a, beqElements_iff_eq as]

theorem beqMembers_iff_eq :
    ∀ as bs : List (String × Json), beqMembers as bs = true ↔ as = bs
  | [], bs => by cases bs <;> simp [beqMembers]
  | (k, a) :: as, bs => by
    cases bs with
    | nil => simp [beqMembers]
    | cons b bs =>
      obtain ⟨l, b⟩ := b
      simp [beqMembers, beq_iff_eq a, beqMembers_iff_eq as, and_assoc]

end

instance : DecidableEq Json := fun a b => decidable_of_iff _ (beq_iff_eq a b)

end Json

/-! ## Keywords -/

/-- The keywords of a schema, with their values. -/
abbrev Keywords := OrderedMap String Json

namespace Keywords

/-- The text of one character of a name inside a pointer. -/
def escapePointerChar (c : Char) : List Char :=
  if c = '~' then ['~', '0'] else if c = '/' then ['~', '1'] else [c]

/-- The text of a name inside a pointer. -/
def escapePointer (name : String) : String :=
  String.ofList (name.toList.flatMap escapePointerChar)

/-- The pointer to the definition of a name. -/
def definitionPointer (name : String) : String := "#/definitions/" ++ escapePointer name

/-- The schema that stands for the definition of a name. -/
def reference (name : String) : Keywords := [("$ref", .string (definitionPointer name))]

/-- The dialect of draft-04 documents. -/
def draft4Dialect : String := "http://json-schema.org/draft-04/schema#"

/-- The document under a dialect. -/
def stamp (document : Keywords) (dialect : String) : Keywords :=
  OrderedMap.insert document "$schema" (.string dialect)

end Keywords

end SchemaTree
