import Std.Data.HashMap
import SchemaTree.Pattern.Automaton.Part
import SchemaTree.Pattern.Encoding

/-!
# Sets in automata

An automaton reads bytes. A set of ASCII characters takes one state with a list of ranges. Any other
set takes states for the encodings of its characters, and states that do the same are shared as far
as a table of limited size remembers them: each state has a slot in it, by the hash of what the
state does, and a slot remembers the last state only. The hash takes the numbers of other states in,
so the size depends on where in the automaton a set stands.

* `Slots`: the table;
* `EncodingTree`: the encodings of a set as a tree, with common beginnings;
* `Part.ofSet`, `Part.ofSetReversed`: the part for a set, read forward or backward.
-/

namespace SchemaTree

namespace Pattern

/-! ## Sharing -/

/-- The hash of no numbers. -/
def hashSeed : UInt64 := 14695981039346656037

/-- A hash with one more number. -/
def mixHash (h : UInt64) (n : Nat) : UInt64 := (h ^^^ n.toUInt64) * 1099511628211

/-- A table of the numbers of states, by what they do. -/
abbrev Slots (α : Type) := Std.HashMap Nat (α × Nat)

/-- The number of a state that does the same, if its slot still remembers it. -/
def Slots.find? {α : Type} [DecidableEq α] (t : Slots α) (slot : Nat) (a : α) : Option Nat :=
  match t[slot]? with
  | some (b, n) => if a = b then some n else none
  | none => none

/-- An automaton under construction, with the table of the states to share. -/
structure Sharing (α : Type) where
  size : Size
  slots : Slots α

/-- Finds a state that does the same or adds one, and gives its number. -/
def Sharing.state {α : Type} [DecidableEq α] (s : Sharing α) (slot : Nat) (a : α) (d : Size) :
    Option (Nat × Sharing α) :=
  match s.slots.find? slot a with
  | some n => some (n, s)
  | none => do
    let size ← s.size.grow d
    return (s.size.states, ⟨size, s.slots.insert slot (a, s.size.states)⟩)

/-! ## Reading forward -/

/-- A way out of a state: the bytes that take it, and the number of the next state. -/
structure Way where
  range : ByteRange
  next : Nat
  deriving DecidableEq

/-- The number of slots where encodings are read forward. -/
def forwardSlots : Nat := 10000

/-- The slot of a state with some ways out. -/
def slotOfWays (ws : List Way) : Nat :=
  let h := ws.foldl (fun h w => mixHash (mixHash (mixHash h w.range.first) w.range.last) w.next)
    hashSeed
  h.toNat % forwardSlots

/-- The encodings of a set as a tree. `beside` holds what does not begin with `range`; where nothing
is below, the encoding ends. -/
inductive EncodingTree where
  | none
  | node (range : ByteRange) (below beside : EncodingTree)

namespace EncodingTree

/-- The tree of one encoding. -/
def ofEncoding : Encoding → EncodingTree
  | [] => .none
  | r :: rs => .node r (ofEncoding rs) .none

/-- Puts an encoding in front of others; it shares its beginning with the first of them only. -/
def cons : Encoding → EncodingTree → EncodingTree
  | r :: rs, .node r' below beside =>
    if r = r' then .node r (cons rs below) beside
    else .node r (ofEncoding rs) (.node r' below beside)
  | e, _ => ofEncoding e

/-- The tree of some encodings. -/
def ofEncodings (es : List Encoding) : EncodingTree := es.foldr cons .none

/-- Adds the states below a node, the deepest ones first, and gives the ways into them. Encodings
end at the state `stop`. -/
def ways (stop : Nat) : EncodingTree → Sharing (List Way) → Option (List Way × Sharing (List Way))
  | .none, s => some ([], s)
  | .node r below beside, s => do
    let (inner, s) ← below.ways stop s
    let (next, s) ←
      if inner.isEmpty then some (stop, s)
      else s.state (slotOfWays inner) inner (.ofStates 1 + .ofRanges inner.length)
    let (outer, s) ← beside.ways stop s
    return (⟨r, next⟩ :: outer, s)

/-- Adds the states for a tree. -/
def add (t : EncodingTree) (size : Size) : Option Size := do
  let s ← size.grow (.ofStates 1)
  let (ws, s) ← t.ways size.states ⟨s, {}⟩
  let (_, s) ← s.state (slotOfWays ws) ws (.ofStates 1 + .ofRanges ws.length)
  return s.size

end EncodingTree

/-! ## Reading backward -/

/-- The number of slots where encodings are read backward. -/
def backwardSlots : Nat := 1000

/-- The slot of a state with one way out. -/
def slotOfWay (w : Way) : Nat :=
  (mixHash (mixHash (mixHash hashSeed w.next) w.range.first) w.range.last).toNat % backwardSlots

/-- Adds the states for an encoding, the last one of which leads to the state `next`, and gives the
number of the first. -/
def addReversed : Encoding → Nat → Sharing Way → Option (Nat × Sharing Way)
  | [], next, s => some (next, s)
  | r :: rs, next, s => do
    let w : Way := ⟨r, next⟩
    let (n, s) ← s.state (slotOfWay w) w (.ofStates 1)
    addReversed rs n s

/-- Adds a fork to the states for some encodings. -/
def addAllReversed (es : List Encoding) (size : Size) : Option Size := do
  let s ← size.grow (.ofStates 2)
  let s ← es.foldlM (fun s e => do
    let (_, s) ← addReversed e (size.states + 1) s
    let size ← s.size.grow (.ofWays 1)
    return ⟨size, s.slots⟩) ⟨s, {}⟩
  return s.size

/-! ## Parts -/

/-- The part for a set of ASCII characters. -/
def Part.ofAsciiSet (s : CharSet) : Part := .fixed (.ofStates 2 + .ofRanges s.ranges.length)

/-- The part for a set whose encodings are read forward. -/
def Part.ofSet (s : CharSet) : Part :=
  if s.isAscii then .ofAsciiSet s
  else
    let t := EncodingTree.ofEncodings s.encodings
    ⟨false, t.add⟩

/-- The part for a set whose encodings are read backward. -/
def Part.ofSetReversed (s : CharSet) : Part :=
  if s.isAscii then .ofAsciiSet s
  else
    let es := s.encodings
    ⟨false, addAllReversed es⟩

end Pattern

end SchemaTree
