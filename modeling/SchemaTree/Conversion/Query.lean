import SchemaTree.Conversion.Event
import SchemaTree.Json.Basic

/-!
# What a converter may ask

A converter does not see the conversion in progress. It is a tree of questions: each node asks for
something, and the answer chooses the branch to go on with.

* `Query`, a lawful monad;
* `Query.resolveChild`: the schema of a child, whose failure is the failure of the query.
-/

namespace SchemaTree

/-- What resolving a node gives: its keywords, nothing, or an error. -/
abbrev Outcome := Except ConversionError (Option Keywords)

/-- A computation that may ask the conversion in progress. -/
inductive Query (α : Type) where
  | done (a : α)
  | fail (e : ConversionError)
  /-- Asks for the path of the node being converted. -/
  | path (next : Path → Query α)
  /-- Asks whether the type of a name has been converted. -/
  | isDefined (name : String) (next : Bool → Query α)
  /-- Asks for the definition of a name. -/
  | definition (name : String) (next : Option Keywords → Query α)
  /-- Asks for the schema of a descendant of the node being converted: the child with number `i`,
  or the node that the numbers `below` lead to from there. -/
  | resolve (i : Nat) (below : List Nat) (segment : Segment) (next : Outcome → Query α)
  /-- Reports that a property has no schema. -/
  | reportSkipped (property : String) (next : Query α)

namespace Query

/-- Goes on with `f` after `q`. -/
def bind {α β : Type} : Query α → (α → Query β) → Query β
  | done a, f => f a
  | fail e, _ => fail e
  | path next, f => path fun p => (next p).bind f
  | isDefined name next, f => isDefined name fun b => (next b).bind f
  | definition name next, f => definition name fun k => (next k).bind f
  | resolve i below segment next, f => resolve i below segment fun r => (next r).bind f
  | reportSkipped property next, f => reportSkipped property (next.bind f)

instance : Monad Query where
  pure := done
  bind := bind

theorem bind_done {α : Type} (q : Query α) : q.bind done = q := by
  induction q with
  | done | fail => rfl
  | path next ih => exact congrArg path (funext ih)
  | isDefined name next ih => exact congrArg (isDefined name) (funext ih)
  | definition name next ih => exact congrArg (definition name) (funext ih)
  | resolve i below segment next ih => exact congrArg (resolve i below segment) (funext ih)
  | reportSkipped property next ih => exact congrArg (reportSkipped property) ih

theorem bind_assoc {α β γ : Type} (q : Query α) (f : α → Query β) (g : β → Query γ) :
    (q.bind f).bind g = q.bind fun a => (f a).bind g := by
  induction q with
  | done | fail => rfl
  | path next ih => exact congrArg path (funext ih)
  | isDefined name next ih => exact congrArg (isDefined name) (funext ih)
  | definition name next ih => exact congrArg (definition name) (funext ih)
  | resolve i below segment next ih => exact congrArg (resolve i below segment) (funext ih)
  | reportSkipped property next ih => exact congrArg (reportSkipped property) ih

instance : LawfulMonad Query := LawfulMonad.mk' Query bind_done (fun _ _ => rfl) bind_assoc

/-! ## Questions -/

/-- The path of the node being converted. -/
def currentPath : Query Path := path done

/-- Whether the type of a name has been converted. -/
def hasDefinition (name : String) : Query Bool := isDefined name done

/-- The definition of a name. -/
def getDefinition (name : String) : Query (Option Keywords) := definition name done

/-- The result of an outcome, or its failure. -/
def ofOutcome : Outcome → Query (Option Keywords)
  | .ok k => done k
  | .error e => fail e

/-- The schema of the child with number `i`, one segment below. -/
def resolveChild (i : Nat) (segment : Segment) : Query (Option Keywords) :=
  resolve i [] segment ofOutcome

/-- Reports that a property has no schema. -/
def noteSkipped (property : String) : Query Unit := reportSkipped property (done ())

end Query

end SchemaTree
