/-!
# Sizes and parts of automata

An automaton for a pattern is built part by part, and its size may not pass a limit. Of a part only
two things matter: how much it adds, and whether it is left through a fork, a state from which
several ways lead on. A fork keeps a list of its ways, so that linking it to what follows takes
room; other states have room for one way.

* `Size`, `Size.grow`: sizes, and growth up to the limit;
* `Part`: a part of an automaton, with `Part.fixed`, `Part.sequence`, `Part.exactly`,
  `Part.atLeast`, `Part.upTo`, `Part.choice`.
-/

namespace SchemaTree

namespace Pattern

/-! ## Sizes -/

/-- The size of an automaton: its states, and the bytes that they hold beside themselves. -/
structure Size where
  states : Nat
  extra : Nat
  deriving DecidableEq, Repr

namespace Size

instance : Add Size := ⟨fun s t => ⟨s.states + t.states, s.extra + t.extra⟩⟩

/-- The bytes that a state takes. -/
def stateBytes : Nat := 32

/-- The bytes that a fork takes for each of its ways. -/
def wayBytes : Nat := 4

/-- The bytes that a state takes for each of its ranges of bytes, where it has a list of them. -/
def rangeBytes : Nat := 8

/-- The most bytes of an automaton. -/
def limit : Nat := 10 * Nat.pow 2 20

/-- The bytes of an automaton. -/
def bytes (s : Size) : Nat := stateBytes * s.states + s.extra

/-- The size with an addition, if it stays within the limit. -/
def grow (s d : Size) : Option Size := if (s + d).bytes ≤ limit then some (s + d) else none

/-- States without extra bytes. -/
def ofStates (n : Nat) : Size := ⟨n, 0⟩

/-- The extra bytes for ways out of forks. -/
def ofWays (n : Nat) : Size := ⟨0, n * wayBytes⟩

/-- The extra bytes for ranges of bytes. -/
def ofRanges (n : Nat) : Size := ⟨0, n * rangeBytes⟩

end Size

/-! ## Parts -/

/-- A part of an automaton: whether it is left through a fork, and what adding it makes of a size,
if that stays within the limit. -/
structure Part where
  forked : Bool
  add : Size → Option Size

namespace Part

/-- A part that always adds the same. -/
def fixed (d : Size) : Part := ⟨false, (·.grow d)⟩

/-- What it adds to link a part to the next one. -/
def link (p : Part) : Size := .ofWays (if p.forked then 1 else 0)

/-- One part after another. -/
def andThen (p q : Part) : Part :=
  ⟨q.forked, fun s => do (← q.add (← p.add s)).grow p.link⟩

/-- A part with something added before and after it; it is left through the latter. -/
def enclosed (before : Size) (p : Part) (after : Size) : Part :=
  ⟨false, fun s => do (← p.add (← s.grow before)).grow (after + p.link)⟩

/-- Parts one after another. -/
def sequence : List Part → Part
  | [] => fixed (.ofStates 1)
  | p :: ps => ps.foldl andThen p

/-- Adds a part `n` times, each time after some other addition. -/
def addTimes (p : Part) (before : Size) : Nat → Size → Option Size
  | 0, s => some s
  | n + 1, s =>
    match (s.grow before).bind p.add with
    | some t => addTimes p before n t
    | none => none

/-- A part exactly `n` times. -/
def exactly (p : Part) : Nat → Part
  | 0 => fixed (.ofStates 1)
  | n + 1 => ⟨p.forked, fun s => do p.addTimes p.link n (← p.add s)⟩

/-- A part that may be left out. -/
def optional (p : Part) : Part := enclosed (.ofStates 1) p (.ofStates 1 + .ofWays 2)

/-- A part at least `n` times. A part that may match the empty text needs a fork of its own for the
case of no rounds. -/
def atLeast (p : Part) (consumes : Bool) : Nat → Part
  | 0 =>
    if consumes then
      ⟨true, fun s => do (← p.add (← s.grow (.ofStates 1))).grow (.ofWays 1 + p.link)⟩
    else ⟨false, fun s => do (← p.add s).grow (.ofStates 3 + .ofWays 4 + p.link)⟩
  | n + 1 =>
    ⟨true, fun s => do (← (p.exactly (n + 1)).add s).grow (.ofStates 1 + .ofWays 1 + p.link)⟩

/-- A part from `min` to `max` times: the rounds beyond the first ones begin with a fork each. -/
def upTo (p : Part) (min max : Nat) : Part :=
  if min = max then p.exactly min
  else if min = 0 ∧ max = 1 then p.optional
  else
    ⟨false, fun s => do
      let first := p.exactly min
      let s ← (← first.add s).grow (.ofStates 1 + first.link)
      p.addTimes (.ofStates 1 + .ofWays 2 + p.link) (max - min) s⟩

/-- A choice between parts. -/
def choice : List Part → Part
  | [] => fixed (.ofStates 1)
  | [p] => p
  | p :: q :: ps =>
    ⟨false, fun s => do
      let s ← (← q.add (← p.add s)).grow (.ofStates 2 + .ofWays 2 + p.link + q.link)
      ps.foldlM (fun s p => do (← p.add s).grow (.ofWays 1 + p.link)) s⟩

end Part

end Pattern

end SchemaTree
