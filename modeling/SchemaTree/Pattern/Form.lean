import SchemaTree.Pattern.Encoding

/-!
# Forms

A form is a pattern with everything worked out: flags are applied, classes are sets of characters,
and groups that only group are gone. The constructors below keep forms in a simple shape.

* `Look`, `Form`;
* `Form.minLength`, `Form.maxLength`: bounds for the bytes of a match;
* `Form.startsText`, `Form.endsText`: whether a match has to begin or end where the text does;
* `Form.ofSet`, `Form.repeated`, `Form.sequence`, `Form.choice`: the constructors.
-/

namespace SchemaTree

namespace Pattern

/-- The places at words that an anchor can ask for. -/
inductive WordEdge where
  | boundary
  | notBoundary
  | start
  | stop
  | startHalf
  | stopHalf
  deriving DecidableEq, Repr

/-- What an anchor asks for. -/
inductive Look where
  | textStart
  | textEnd
  | lineStart (crlf : Bool)
  | lineEnd (crlf : Bool)
  | word (edge : WordEdge) (unicode : Bool)
  deriving DecidableEq, Repr

/-- A pattern with everything worked out. `ofBytes` marks a set that was written where Unicode is
off. -/
inductive Form where
  | empty
  | literal (text : List Char)
  | set (ofBytes : Bool) (characters : CharSet)
  | look (l : Look)
  | repetition (min : Nat) (max : Option Nat) (greedy : Bool) (part : Form)
  | capture (part : Form)
  | concat (parts : List Form)
  | alternation (parts : List Form)

namespace Form

/-! ## Interchangeable parts -/

mutual

/-- Whether two parts of one pattern are interchangeable. No two captures are, because each has a
number of its own. -/
def same : Form → Form → Bool
  | .empty, .empty => true
  | .literal a, .literal b => a == b
  | .set p s, .set q t => p == q && s == t
  | .look a, .look b => a == b
  | .repetition m n g e, .repetition m' n' g' e' => m == m' && n == n' && g == g' && same e e'
  | .concat es, .concat es' => sameParts es es'
  | .alternation es, .alternation es' => sameParts es es'
  | _, _ => false

/-- Whether two lists of parts are interchangeable one by one. -/
def sameParts : List Form → List Form → Bool
  | [], [] => true
  | e :: es, e' :: es' => same e e' && sameParts es es'
  | _, _ => false

end

/-! ## Lengths -/

/-- The number of bytes that encode a character. -/
def byteLength (place : Nat) : Nat := (bytesOf (codePoint place)).length

mutual

/-- The fewest bytes of a match; a form without a bound is one that nothing matches. -/
def minLength : Form → Option Nat
  | .empty | .look _ => some 0
  | .literal text => some (text.map Char.utf8Size).sum
  | .set _ s => s.ranges.head?.map fun (first, _) => byteLength first
  | .repetition min _ _ part => part.minLength.map (min * ·)
  | .capture part => part.minLength
  | .concat parts => minSum parts
  | .alternation parts => minOf parts

/-- The sum of fewest bytes. -/
def minSum : List Form → Option Nat
  | [] => some 0
  | e :: es => return (← e.minLength) + (← minSum es)

/-- The least of fewest bytes, if all parts have a bound. -/
def minOf : List Form → Option Nat
  | [] => none
  | [e] => e.minLength
  | e :: es => return min (← e.minLength) (← minOf es)

end

mutual

/-- The most bytes of a match, if there is a bound. -/
def maxLength : Form → Option Nat
  | .empty | .look _ => some 0
  | .literal text => some (text.map Char.utf8Size).sum
  | .set _ s => s.ranges.getLast?.map fun (_, last) => byteLength last
  | .repetition _ max _ part => return (← max) * (← part.maxLength)
  | .capture part => part.maxLength
  | .concat parts => maxSum parts
  | .alternation parts => maxOf parts

/-- The sum of most bytes. -/
def maxSum : List Form → Option Nat
  | [] => some 0
  | e :: es => return (← e.maxLength) + (← maxSum es)

/-- The greatest of most bytes, if all parts have a bound. -/
def maxOf : List Form → Option Nat
  | [] => none
  | [e] => e.maxLength
  | e :: es => return max (← e.maxLength) (← maxOf es)

end

/-- Whether a form matches the empty text only. -/
def isZeroWidth (e : Form) : Bool := e.maxLength = some 0

/-- Whether every match has a byte, as far as the bound tells. -/
def consumes (e : Form) : Bool := e.minLength.any (0 < ·)

/-! ## Anchoring -/

mutual

/-- Whether a match has to begin where the text does. -/
def startsText : Form → Bool
  | .look l => l = .textStart
  | .repetition min _ _ part => 0 < min && part.startsText
  | .capture part => part.startsText
  | .concat parts => someStartsText parts
  | .alternation parts => allStartText parts
  | _ => false

/-- Whether a part does so, before one that may have length. -/
def someStartsText : List Form → Bool
  | [] => false
  | e :: es => e.startsText || (e.isZeroWidth && someStartsText es)

/-- Whether all parts do so. -/
def allStartText : List Form → Bool
  | [] => true
  | e :: es => e.startsText && allStartText es

end

mutual

/-- Whether a match has to end where the text does. -/
def endsText : Form → Bool
  | .look l => l = .textEnd
  | .repetition min _ _ part => 0 < min && part.endsText
  | .capture part => part.endsText
  | .concat parts => someEndsText parts
  | .alternation parts => allEndText parts
  | _ => false

/-- Whether a part does so, after which no part has length. -/
def someEndsText : List Form → Bool
  | [] => false
  | e :: es => someEndsText es || (allZeroWidth es && e.endsText)

/-- Whether all parts do so. -/
def allEndText : List Form → Bool
  | [] => true
  | e :: es => e.endsText && allEndText es

/-- Whether no part has length. -/
def allZeroWidth : List Form → Bool
  | [] => true
  | e :: es => e.isZeroWidth && allZeroWidth es

end

/-! ## Constructors -/

/-- The form that nothing matches. -/
def never : Form := .set true .empty

/-- A set; a set of one character is a literal. -/
def ofSet (ofBytes : Bool) (s : CharSet) : Form :=
  if s.isEmpty then never
  else match s.char? with
    | some c => .literal [c]
    | none => .set ofBytes s

/-- A repetition. A part without length need not be repeated, no rounds are the empty form, and one
round is the part. -/
def repeated (min : Nat) (max : Option Nat) (greedy : Bool) (part : Form) : Form :=
  let (min, max) := if part.isZeroWidth then (Nat.min min 1, some ((max.map (Nat.min · 1)).getD 1))
    else (min, max)
  if min = 0 ∧ max = some 0 then .empty
  else if min = 1 ∧ max = some 1 then part
  else .repetition min max greedy part

/-- The parts of a part of a sequence. -/
def concatParts : Form → List Form
  | .empty => []
  | .concat parts => parts
  | e => [e]

/-- Puts a part in front of others; literals that meet become one. -/
def consPart : Form → List Form → List Form
  | .literal a, .literal b :: es => .literal (a ++ b) :: es
  | e, es => e :: es

/-- A sequence of parts. -/
def sequence (parts : List Form) : Form :=
  match (parts.flatMap concatParts).foldr consPart [] with
  | [] => .empty
  | [e] => e
  | es => .concat es

/-- The branches of a branch. -/
def branchesOf : Form → List Form
  | .alternation parts => parts
  | e => [e]

/-- The character of a literal that is one character. -/
def char? : Form → Option Char
  | .literal [c] => some c
  | _ => none

/-- The characters of a set. -/
def set? : Form → Option CharSet
  | .set _ s => some s
  | _ => none

/-- Branches that are all single characters, or all sets, as one form; other branches stay apart. -/
def merged (branches : List Form) : Form :=
  match branches with
  | [e] => e
  | es =>
    match es.mapM char? with
    | some cs => ofSet false (.ofCodes (cs.map Char.toNat))
    | none =>
      match es.mapM set? with
      | some ss => ofSet false (.unions ss)
      | none => .alternation es

/-- The parts with which two lists begin. -/
def commonParts : List Form → List Form → List Form
  | e :: es, e' :: es' => if same e e' then e :: commonParts es es' else []
  | _, _ => []

/-- The parts of a sequence that has several. -/
def parts? : Form → Option (List Form)
  | .concat parts => some parts
  | _ => none

/-- A choice between branches. If all branches are sequences with a common beginning, only the rest
is a choice; the rests have no common beginning. -/
def choice (branches : List Form) : Form :=
  let flat := branches.flatMap branchesOf
  match merged flat, flat.mapM parts? with
  | .alternation es, some (first :: rest) =>
    match rest.foldl commonParts first with
    | [] => .alternation es
    | common =>
      let rests := (first :: rest).map fun es => sequence (es.drop common.length)
      sequence (common ++ [merged (rests.flatMap branchesOf)])
  | e, _ => e

end Form

end Pattern

end SchemaTree
