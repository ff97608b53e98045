import SchemaTree.Pattern.Automaton.Set
import SchemaTree.Pattern.Automaton.Words
import SchemaTree.Pattern.Form

/-!
# Automata

A form is matched by two automata, which read a text forward and backward. Both have to stay within
the limit.

* `Form.part`: the part of an automaton for a form;
* `Form.automatonSize?`: the size of a whole automaton;
* `Form.fits`: whether both automata stay within the limit.
-/

namespace SchemaTree

namespace Pattern

/-- The direction in which an automaton reads. -/
inductive Direction where
  | forward
  | backward
  deriving DecidableEq, Repr

/-- The items of a list in the order of reading. -/
def Direction.order {α : Type} : Direction → List α → List α
  | .forward, as => as
  | .backward, as => as.reverse

namespace Form

/-! ## Parts -/

/-- The word that a literal spells. -/
def word? : Form → Option Word
  | .literal text => some (text.flatMap fun c => bytesOf c.toNat)
  | _ => none

/-- The part for a repetition; `consumes` says whether every match of the repeated part has a
byte. -/
def repetitionPart (min : Nat) (max : Option Nat) (consumes : Bool) (p : Part) : Part :=
  match max with
  | none => p.atLeast consumes min
  | some max => p.upTo min max

mutual

/-- The part for a form. Only an automaton that reads forward notes where captures begin and end. -/
def part (d : Direction) : Form → Part
  | .empty | .look _ => .fixed (.ofStates 1)
  | .literal text => .fixed (.ofStates ((text.map Char.utf8Size).sum))
  | .set _ s =>
    match d with
    | .forward => .ofSet s
    | .backward => .ofSetReversed s
  | .repetition min max _ e => repetitionPart min max e.consumes (e.part d)
  | .capture e =>
    match d with
    | .forward => .enclosed (.ofStates 1) (e.part d) (.ofStates 1)
    | .backward => e.part d
  | .concat es => .sequence (d.order (partsFor d es))
  | .alternation es =>
    match es.mapM word? with
    | some ws => .ofWords (ws.map d.order)
    | none => .choice (partsFor d es)

/-- The parts for a list of forms. -/
def partsFor (d : Direction) : List Form → List Part
  | [] => []
  | e :: es => e.part d :: partsFor d es

end

/-! ## Whole automata -/

/-- The size before the part for a form: a loop that skips any bytes, unless a match has to begin
where reading begins. -/
def prefixSize (anchored : Bool) : Size :=
  if anchored then .ofStates 1 else .ofStates 3 + .ofRanges 1 + .ofWays 2

/-- The part for a form that is a whole pattern: it is a capture, and what matches has an end. -/
def wholePart (d : Direction) (e : Form) : Part :=
  match d with
  | .forward => .enclosed (.ofStates 1) (e.part d) (.ofStates 2)
  | .backward => .enclosed (.ofStates 0) (e.part d) (.ofStates 1)

/-- The size of the automaton that reads in a direction, if it stays within the limit. -/
def automatonSize? (d : Direction) (e : Form) : Option Size :=
  let anchored := match d with
    | .forward => e.startsText
    | .backward => e.endsText
  (e.wholePart d).add (prefixSize anchored)

/-- Whether the automata for a form stay within the limit. -/
def fits (e : Form) : Bool :=
  (e.automatonSize? .forward).isSome && (e.automatonSize? .backward).isSome

end Form

end Pattern

end SchemaTree
