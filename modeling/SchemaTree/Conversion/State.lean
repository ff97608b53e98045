import SchemaTree.Conversion.Query

/-!
# The conversion in progress

* `Progress`: the path of the node being converted, the definitions so far, and the events;
* `Progress.descend`: enters a segment, acts there, and leaves for the path from before;
* `Query.run`: answers the questions of a query;
* `Query.run_bind`: the questions of a sequence are answered in order, up to a failure.
-/

namespace SchemaTree

/-- The named types that have been converted, in the order in which that ended. A type whose
converter gave no result has an entry all the same. -/
abbrev Definitions := OrderedMap String (Option Keywords)

/-- A conversion in progress. -/
structure Progress where
  path : Path := []
  definitions : Definitions := []
  events : List Event := []

/-- A step of a conversion that resolves a node. -/
abbrev Action := Progress → Outcome × Progress

namespace Progress

/-- The conversion with one more event. -/
def report (s : Progress) (e : Event) : Progress := { s with events := s.events ++ [e] }

/-- Whether the type of a name has been converted. -/
def isDefined (s : Progress) (name : String) : Bool := OrderedMap.contains s.definitions name

/-- The definition of a name; a type without a result has none. -/
def definition? (s : Progress) (name : String) : Option Keywords :=
  (OrderedMap.get? s.definitions name).join

/-- The conversion with a result for a type, unless the type has one. -/
def define (s : Progress) (name : String) (result : Option Keywords) : Progress :=
  { s with definitions := OrderedMap.insertIfNew s.definitions name result }

/-- The conversion one segment below. -/
def enter (s : Progress) (segment : Segment) : Progress := { s with path := s.path.push segment }

/-- The conversion back at a path. -/
def leave (s : Progress) (path : Path) : Progress := { s with path }

/-- Does `act` one segment below. -/
def descend (s : Progress) (segment : Segment) (act : Action) : Outcome × Progress :=
  let (r, t) := act (s.enter segment)
  (r, t.leave s.path)

/-- The definitions that have a result, as members of an object. -/
def sharedSchemas (s : Progress) : OrderedMap String Json :=
  s.definitions.filterMap fun (name, result) => result.map fun k => (name, .object k)

end Progress

/-- Answers the questions of a query; `resolveAt` resolves the descendants of the node being
converted. -/
def Query.run {α : Type} (resolveAt : Nat → List Nat → Action) :
    Query α → Progress → Except ConversionError α × Progress
  | .done a, s => (.ok a, s)
  | .fail e, s => (.error e, s)
  | .path next, s => (next s.path).run resolveAt s
  | .isDefined name next, s => (next (s.isDefined name)).run resolveAt s
  | .definition name next, s => (next (s.definition? name)).run resolveAt s
  | .resolve i below segment next, s =>
    let (r, t) := s.descend segment (resolveAt i below)
    (next r).run resolveAt t
  | .reportSkipped property next, s =>
    next.run resolveAt (s.report (.skippedProperty property s.path))

/-! ## Laws -/

namespace Progress

variable (s : Progress) (name : String) (result : Option Keywords) (segment : Segment) (path : Path)

@[simp] theorem definitions_report (e : Event) : (s.report e).definitions = s.definitions := rfl

@[simp] theorem path_enter : (s.enter segment).path = s.path.push segment := rfl

@[simp] theorem path_leave : (s.leave path).path = path := rfl

@[simp] theorem definitions_leave : (s.leave path).definitions = s.definitions := rfl

variable {s segment} in
theorem descend_of_enter {t : Progress} {act : Action} {r : Outcome}
    (h : act (s.enter segment) = (r, t)) : s.descend segment act = (r, t.leave s.path) := by
  rw [descend, h]

theorem define_of_isDefined (h : s.isDefined name = true) : s.define name result = s := by
  rw [isDefined] at h
  simp [define, OrderedMap.insertIfNew, h]

end Progress

theorem Query.run_bind {α β : Type} (resolveAt : Nat → List Nat → Action) (q : Query α)
    (f : α → Query β) (s : Progress) :
    (q >>= f).run resolveAt s =
      match q.run resolveAt s with
      | (.ok a, t) => (f a).run resolveAt t
      | (.error e, t) => (.error e, t) := by
  induction q generalizing s with
  | done | fail => rfl
  | path next ih => exact ih _ _
  | isDefined name next ih => exact ih _ _
  | definition name next ih => exact ih _ _
  | resolve i below segment next ih => exact ih _ _
  | reportSkipped property next ih => exact ih _

end SchemaTree
