import SchemaTree.Node
import SchemaTree.Defect

/-!
# Checking the structure of a tree

An array has exactly one child, the children of an object have different names, a leaf has no
children, and only decimal kinds have a number of decimal places. The check goes down into the
children of objects and into the item of an array.

* `defectsBelow`: the defects of a node at a given path, in the order in which they are met;
* `check`: the report on a whole tree, if there is anything to report.
-/

namespace SchemaTree

namespace Node

/-- The flaw in the name of a property, given the names before it. -/
def nameFlaw? (seen : List String) (name : String) : Option Flaw :=
  if name.isEmpty then some .unnamedProperty
  else if name ∈ seen then some (.duplicateProperty name)
  else none

/-- The flaw in the decimal places of a node. -/
def scaleFlaw? (a : Attributes) : Option Flaw :=
  if a.scale.isSome && !a.kind.isDecimal then some (.scaleNotApplicable a.kind) else none

/-- The defect of a flaw that may be missing. -/
def defectOf (path : Path) (f : Option Flaw) : List Defect := (f.map (·.at path)).toList

mutual

/-- The defects of a node at `path` and of the nodes that the check reaches below it. -/
def defectsBelow (path : Path) : Node → List Defect
  | mk a children =>
    (if a.kind.isArray then
      defectOf path (if children.length = 1 then none else some (.itemCount children.length)) ++
        itemDefects path children
    else if a.kind.isObject then propertyDefects path [] children
    else defectOf path (if children.isEmpty then none else some (.leafChildren a.kind))) ++
      defectOf path (scaleFlaw? a)

/-- The defects of the item of an array at `path`. -/
def itemDefects (path : Path) : List Node → List Defect
  | [] => []
  | item :: _ => defectsBelow (path.push .items) item

/-- The defects of properties of an object at `path`, after properties named `seen`. -/
def propertyDefects (path : Path) (seen : List String) : List Node → List Defect
  | [] => []
  | c :: cs =>
    let below := path.push (.property c.name)
    defectOf below (nameFlaw? seen c.name) ++ defectsBelow below c ++
      propertyDefects path (c.name :: seen) cs

end

/-- The report on a tree; a tree without defects has none. -/
def check (root : Node) : Option Report := Report.ofList? (defectsBelow [] root)

end Node

end SchemaTree
