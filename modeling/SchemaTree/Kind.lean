/-!
# Kinds of nodes

* `Kind`, with its name and its place in the order of declaration;
* `Kind.isObject`, `Kind.isArray`, `Kind.isLeaf`, `Kind.isDecimal`.
-/

namespace SchemaTree

/-- The kind of value that a node describes. -/
inductive Kind where
  | boolean
  | string
  | date
  | dateTime
  | time
  | number
  | integer
  | decimal
  | money
  | object
  | array
  deriving DecidableEq, Repr

namespace Kind

/-- All kinds, in the order of declaration. -/
def all : List Kind :=
  [boolean, string, date, dateTime, time, number, integer, decimal, money, object, array]

/-- The name of a kind. -/
def name : Kind → String
  | boolean => "Boolean"
  | string => "String"
  | date => "Date"
  | dateTime => "DateTime"
  | time => "Time"
  | number => "Number"
  | integer => "Integer"
  | decimal => "Decimal"
  | money => "Money"
  | object => "Object"
  | array => "Array"

/-- The kind of a name. -/
def ofName? (s : String) : Option Kind := all.find? fun k => k.name = s

/-- Whether a node of this kind has named properties. -/
def isObject (k : Kind) : Bool := k = object

/-- Whether a node of this kind has an item. -/
def isArray (k : Kind) : Bool := k = array

/-- Whether a node of this kind has no children. -/
def isLeaf (k : Kind) : Bool := !(k.isObject || k.isArray)

/-- Whether a number of decimal places applies to this kind. -/
def isDecimal (k : Kind) : Bool := k = decimal || k = money

end Kind

end SchemaTree
