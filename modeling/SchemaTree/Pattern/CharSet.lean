/-!
# Sets of characters

The characters are numbered by their places: the order of code points, surrogates left out. A set is
the list of the places at which membership changes, so it needs no more room than its ranges.

* `place`, `codePoint`: from code points to places and back;
* `CharSet.has`: membership; `CharSet.range`, `CharSet.union`, `CharSet.intersection`,
  `CharSet.difference`, `CharSet.symmetricDifference`, `CharSet.complement`;
* `CharSet.ranges`: the ranges of a set;
* `CharSet.ofText`: a set that a table spells.
-/

namespace SchemaTree

namespace Pattern

/-! ## Places -/

/-- The place of a code point that is no surrogate. -/
def place (code : Nat) : Nat := if code < 0xd800 then code else code - 0x800

/-- The code point at a place. -/
def codePoint (place : Nat) : Nat := if place < 0xd800 then place else place + 0x800

/-- The number of places. -/
def placeCount : Nat := 0x10f800

/-- A set of characters: the places, in ascending order, at which membership changes. The part after
the last change goes on to the last character. -/
structure CharSet where
  changes : List Nat
  deriving DecidableEq, Repr

namespace CharSet

/-! ## Membership -/

/-- Membership of place `i`, where `inside` holds before the first change. -/
def hasFrom (inside : Bool) : List Nat → Nat → Bool
  | [], _ => inside
  | c :: cs, i => if i < c then inside else hasFrom (!inside) cs i

/-- Whether a set holds the character at a place. -/
def hasPlace (s : CharSet) (i : Nat) : Bool := hasFrom false s.changes i

/-- Whether a set holds the character with a code point. -/
def hasCode (s : CharSet) (code : Nat) : Bool := s.hasPlace (place code)

/-- Whether a set holds a character. -/
def has (s : CharSet) (c : Char) : Bool := s.hasCode c.toNat

/-! ## Operations -/

/-- The empty set. -/
def empty : CharSet := ⟨[]⟩

/-- The set of all characters. -/
def full : CharSet := ⟨[0]⟩

/-- The characters from code point `first` to code point `last`. -/
def range (first last : Nat) : CharSet :=
  let stop := place last + 1
  ⟨if stop < placeCount then [place first, stop] else [place first]⟩

/-- The set of one character. -/
def single (c : Char) : CharSet := range c.toNat c.toNat

/-- Puts a place in front of later changes if membership changes there. -/
def emit (before after : Bool) (i : Nat) (later : List Nat) : List Nat :=
  if before = after then later else i :: later

/-- The changes of `op p q` where `q` changes at the places of a list and `p` nowhere. -/
def combineRight (op : Bool → Bool → Bool) (p : Bool) : Bool → List Nat → List Nat
  | _, [] => []
  | q, y :: ys => emit (op p q) (op p (!q)) y (combineRight op p (!q) ys)

/-- The changes of `op p q` where `p` changes at `x` and later as `later` says, and `q` changes at
the places of a list. -/
def combineStep (op : Bool → Bool → Bool) (x : Nat) (later : Bool → List Nat → List Nat)
    (p : Bool) : Bool → List Nat → List Nat
  | q, [] => emit (op p q) (op (!p) q) x (later q [])
  | q, y :: ys =>
    if x < y then emit (op p q) (op (!p) q) x (later q (y :: ys))
    else if y < x then emit (op p q) (op p (!q)) y (combineStep op x later p (!q) ys)
    else emit (op p q) (op (!p) (!q)) x (later (!q) ys)

/-- The changes of `op p q` where `p` and `q` change at the places of two lists. -/
def combineFrom (op : Bool → Bool → Bool) : Bool → List Nat → Bool → List Nat → List Nat
  | p, [] => combineRight op p
  | p, x :: xs => combineStep op x (combineFrom op (!p) xs) p

/-- The set whose membership is `op` of the memberships in two sets. -/
def combine (op : Bool → Bool → Bool) (s t : CharSet) : CharSet :=
  ⟨combineFrom op false s.changes false t.changes⟩

/-- The characters in either set. -/
def union : CharSet → CharSet → CharSet := combine fun p q => p || q

/-- The characters in both sets. -/
def intersection : CharSet → CharSet → CharSet := combine fun p q => p && q

/-- The characters of the first set that are not in the second. -/
def difference : CharSet → CharSet → CharSet := combine fun p q => p && !q

/-- The characters in exactly one of two sets. -/
def symmetricDifference : CharSet → CharSet → CharSet := combine fun p q => p != q

/-- The characters in any set of a list. -/
def unions (ss : List CharSet) : CharSet := ss.foldr union empty

/-- The characters that are not in a set. -/
def complement (s : CharSet) : CharSet :=
  match s.changes with
  | 0 :: cs => ⟨cs⟩
  | cs => ⟨0 :: cs⟩

/-! ## Ranges -/

/-- The ranges of places between changes. -/
def rangesOf : List Nat → List (Nat × Nat)
  | [] => []
  | [a] => [(a, placeCount - 1)]
  | a :: b :: cs => (a, b - 1) :: rangesOf cs

/-- The ranges of places of a set, ends included. -/
def ranges (s : CharSet) : List (Nat × Nat) := rangesOf s.changes

/-- Whether a set is empty. -/
def isEmpty (s : CharSet) : Bool := s.changes.isEmpty

/-- Whether all characters of a set are ASCII. -/
def isAscii (s : CharSet) : Bool := s.ranges.all fun (_, last) => last < 0x80

/-- The character of a set with one character. -/
def char? (s : CharSet) : Option Char :=
  match s.ranges with
  | [(a, b)] => if a = b then some (Char.ofNat (codePoint a)) else none
  | _ => none

/-! ## Tables -/

/-- The changes of a set that is given by ascending ranges of code points. -/
def changesOf : List (Nat × Nat) → List Nat
  | [] => []
  | (a, b) :: rs =>
    let stop := place b + 1
    match changesOf rs with
    | [] => place a :: if stop < placeCount then [stop] else []
    | c :: cs => if c = stop then place a :: cs else place a :: stop :: c :: cs

/-- The set of some code points in any order. -/
def ofCodes (codes : List Nat) : CharSet :=
  ⟨changesOf ((codes.mergeSort.eraseReps).map fun c => (c, c))⟩

/-- The ranges that the numbers of an entry stand for: one code point, the ends of a range, or the
ends and the distance of code points that lie apart. -/
def entryRanges : List Nat → List (Nat × Nat)
  | [a] => [(a, a)]
  | [a, b] => [(a, b)]
  | [a, b, step] => (List.range ((b - a) / step + 1)).map fun i => (a + i * step, a + i * step)
  | _ => []

/-- The value of a hexadecimal digit in lower case. -/
def hexDigit? (c : Char) : Option Nat :=
  if '0' ≤ c ∧ c ≤ '9' then some (c.toNat - 48)
  else if 'a' ≤ c ∧ c ≤ 'f' then some (c.toNat - 87)
  else none

/-- The entries of a table, given the earlier ones, the earlier numbers of the current entry and its
current number, all in reverse. -/
def entries (done : List (List Nat)) (numbers : List Nat) (number : Option Nat) :
    List Char → List (List Nat)
  | [] => ((number.toList ++ numbers).reverse :: done).reverse
  | c :: cs =>
    match hexDigit? c with
    | some d => entries done numbers (some (16 * number.getD 0 + d)) cs
    | none =>
      if c = '-' ∨ c = '/' then entries done (number.toList ++ numbers) none cs
      else match number with
        | none => entries done numbers none cs
        | some n => entries ((n :: numbers).reverse :: done) [] none cs

/-- The set that a table spells in ascending hexadecimal code points: `61` is one of them, `61-7a` a
range, and `100-12e/2` every second one of a range. -/
def ofText (s : String) : CharSet := ⟨changesOf ((entries [] [] none s.toList).flatMap entryRanges)⟩

end CharSet

end Pattern

end SchemaTree
