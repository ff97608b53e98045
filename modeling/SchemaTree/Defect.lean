import SchemaTree.Kind
import SchemaTree.Path

/-!
# Defects of a tree

* `Flaw`: what can be wrong with the structure of a tree, with its code and its message;
* `Defect`: a message at a place; `Defect.text`;
* `Report`: one or more defects; `Report.combine` joins two reports, `Report.ofList?` makes one of
  a list that is not empty;
* `Report.toList_combine`, `Report.toList_injective`: a report is its list of defects.
-/

namespace SchemaTree

/-- What can be wrong with the structure of a tree. -/
inductive Flaw where
  | itemCount (count : Nat)
  | unnamedProperty
  | duplicateProperty (name : String)
  | leafChildren (kind : Kind)
  | scaleNotApplicable (kind : Kind)
  deriving DecidableEq, Repr

namespace Flaw

/-- The short name of a flaw. -/
def code : Flaw → String
  | itemCount _ => "array_items"
  | unnamedProperty => "unnamed_property"
  | duplicateProperty _ => "duplicate_property"
  | leafChildren _ => "leaf_children"
  | scaleNotApplicable _ => "scale_not_applicable"

/-- The description of a flaw. -/
def message : Flaw → String
  | itemCount count => "array must have exactly one item schema, got " ++ toString count
  | unnamedProperty => "object property has no name"
  | duplicateProperty name => "property '" ++ name ++ "' is declared more than once"
  | leafChildren kind => kind.name ++ " node must not have children"
  | scaleNotApplicable kind => "scale only applies to decimal kinds, not " ++ kind.name

end Flaw

/-- A message about a place in a tree, with a code for its sort. -/
structure Defect where
  path : Path
  message : String
  code : String := "structure_error"
  deriving DecidableEq, Repr

/-- The defect of a flaw at a place. -/
def Flaw.at (f : Flaw) (path : Path) : Defect := ⟨path, f.message, f.code⟩

/-- The text of a defect. -/
def Defect.text (d : Defect) : String := d.path.describe ++ ": " ++ d.message

/-- One or more defects, in order. -/
structure Report where
  head : Defect
  tail : List Defect
  deriving DecidableEq, Repr

namespace Report

/-- The report of one defect. -/
def single (d : Defect) : Report := ⟨d, []⟩

/-- The defects of a report, in order. -/
def toList (r : Report) : List Defect := r.head :: r.tail

/-- The defects of `r` before those of `s`. -/
def combine (r s : Report) : Report := ⟨r.head, r.tail ++ s.toList⟩

/-- The report of a list of defects, unless it is empty. -/
def ofList? : List Defect → Option Report
  | [] => none
  | d :: ds => some (ds.foldl (fun r d => r.combine (single d)) (single d))

/-- The number of defects. -/
def size (r : Report) : Nat := r.toList.length

/-- The defects at a place. -/
def atPath (r : Report) (path : Path) : List Defect := r.toList.filter fun d => d.path = path

/-- The defects with a code. -/
def withCode (r : Report) (code : String) : List Defect := r.toList.filter fun d => d.code = code

/-- The lines of numbered defects. -/
def numbered (start : Nat) : List Defect → String
  | [] => ""
  | d :: ds => "  " ++ toString start ++ ". " ++ d.text ++ "\n" ++ numbered (start + 1) ds

/-- The text of a report: a headline and a numbered line for each defect. -/
def text (r : Report) : String :=
  "Schema tree has " ++ toString r.size ++ " structural error(s):\n" ++ numbered 1 r.toList

/-! ## Laws -/

@[simp] theorem toList_single (d : Defect) : (single d).toList = [d] := rfl

@[simp] theorem toList_combine (r s : Report) : (r.combine s).toList = r.toList ++ s.toList := rfl

theorem toList_injective {r s : Report} (h : r.toList = s.toList) : r = s := by
  obtain ⟨d, ds⟩ := r
  obtain ⟨e, es⟩ := s
  simpa [toList] using h

end Report

end SchemaTree
