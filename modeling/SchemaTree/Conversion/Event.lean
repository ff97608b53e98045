import SchemaTree.Kind
import SchemaTree.Path

/-!
# Events of a conversion

* `ConversionError`: why a conversion fails, with its message;
* `Event`: what a conversion reports while it runs, with its level, message and fields.
-/

namespace SchemaTree

/-- No converter is registered for the kind of the node at a path. -/
structure ConversionError where
  kind : Kind
  path : Path
  deriving DecidableEq, Repr

/-- The message of an error. -/
def ConversionError.message (e : ConversionError) : String :=
  "no converter registered for " ++ e.kind.name ++ " at " ++ e.path.describe

/-- How much a reader has to care about an event. -/
inductive Level where
  | debug
  | trace
  deriving DecidableEq, Repr

/-- The name of a level. -/
def Level.name : Level → String
  | debug => "DEBUG"
  | trace => "TRACE"

/-- What a conversion reports while it runs. -/
inductive Event where
  /-- A node has a kind without a converter. -/
  | noConverter (kind : Kind) (path : Path)
  /-- A property of the object at `path` has no schema. -/
  | skippedProperty (property : String) (path : Path)
  /-- The object of a named type at `path` has just been converted. -/
  | cachingDefinition (typeName : String) (path : Path)
  /-- The object of a named type at `path` is written as a reference. -/
  | emittingReference (typeName : String) (path : Path)
  deriving DecidableEq, Repr

namespace Event

/-- The level of an event. -/
def level : Event → Level
  | noConverter .. => .debug
  | skippedProperty .. => .trace
  | cachingDefinition .. => .debug
  | emittingReference .. => .trace

/-- The message of an event. -/
def message : Event → String
  | noConverter .. => "no converter registered"
  | skippedProperty .. => "property produced no fragment"
  | cachingDefinition .. => "caching definition"
  | emittingReference .. => "emitting $ref"

/-- The fields of an event, sorted by name. -/
def fields : Event → List (String × String)
  | noConverter kind path => [("kind", kind.name), ("path", path.text)]
  | skippedProperty property path => [("path", path.text), ("property", property)]
  | cachingDefinition typeName path => [("path", path.text), ("type_name", typeName)]
  | emittingReference typeName path => [("path", path.text), ("type_name", typeName)]

end Event

end SchemaTree
