import SchemaTree.Json.Basic
import SchemaTree.Binary64.Text
import SchemaTree.Pattern

/-!
# Constraints

A node carries at most one constraint; several rules are one conjunction.

* `Constraint`, `Constraint.floatRange?`, `Constraint.and`;
* `Constraint.leaves`: the rules that a constraint joins, in order.
-/

namespace SchemaTree

/-- A rule for the values of a node; a missing bound is open. -/
inductive Constraint where
  | length (min max : Option Nat)
  | range (min max : Option Number)
  | regex (pattern : Pattern)
  | email
  | url
  | oneOf (choices : List Json)
  | all (members : List Constraint)

namespace Constraint

/-- The bound that a double gives: one that is not finite gives none. -/
def floatBound? : Option Double → Option (Option Number)
  | none => some none
  | some (.finite x) => some (some (.float x))
  | some .nonFinite => none

/-- A range between doubles; a bound that is not finite is refused. -/
def floatRange? (min max : Option Double) : Option Constraint := do
  return .range (← floatBound? min) (← floatBound? max)

/-- The conjunction of two constraints: a conjunction on the left takes the right one as its last
member. -/
def and : Constraint → Constraint → Constraint
  | .all members, c => .all (members ++ [c])
  | c, d => .all [c, d]

/-- Whether a constraint asks for a form of text. -/
def isTextForm : Constraint → Bool
  | .regex _ | .email | .url => true
  | _ => false

mutual

/-- The rules that a constraint joins, in order, conjunctions resolved. -/
def leaves : Constraint → List Constraint
  | .all members => leavesOfAll members
  | c => [c]

/-- The rules that a list of constraints joins. -/
def leavesOfAll : List Constraint → List Constraint
  | [] => []
  | c :: cs => leaves c ++ leavesOfAll cs

end

/-! ## Laws -/

theorem leavesOfAll_eq_flatMap (cs : List Constraint) : leavesOfAll cs = cs.flatMap leaves := by
  induction cs with
  | nil => rfl
  | cons c cs ih => simp [leavesOfAll, ih]

theorem leaves_and (c d : Constraint) : (c.and d).leaves = c.leaves ++ d.leaves := by
  cases c <;> simp [Constraint.and, leaves, leavesOfAll, leavesOfAll_eq_flatMap]

end Constraint

end SchemaTree
