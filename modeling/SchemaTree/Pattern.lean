import SchemaTree.Pattern.Automaton
import SchemaTree.Pattern.Meaning
import SchemaTree.Pattern.Parser

/-!
# Patterns

A pattern is a text that spells an expression that is not nested too deeply and has a meaning, such
that the automata for that meaning are not too large.

* `Pattern.isPattern`;
* `Pattern`, `Pattern.ofText?`.
-/

namespace SchemaTree

namespace Pattern

/-- The greatest depth of an expression. -/
def depthLimit : Nat := 250

/-- The form that a text spells, if it spells one. -/
def form? (s : String) : Option Form := do
  let e ← parse? s
  if depthLimit < e.depth then failure
  let (form, _) ← e.form? {}
  return form

/-- Whether a text is a pattern. -/
def isPattern (s : String) : Bool := (form? s).any Form.fits

end Pattern

/-- A text that is a regular expression. -/
structure Pattern where
  text : String
  valid : Pattern.isPattern text = true
  deriving DecidableEq

/-- The pattern that a text spells, if it spells one. -/
def Pattern.ofText? (s : String) : Option Pattern :=
  if h : Pattern.isPattern s = true then some ⟨s, h⟩ else none

end SchemaTree
