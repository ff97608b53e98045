import SchemaTree.Pattern.CharSet

/-!
# Encodings

The UTF-8 encodings of a set of characters, as sequences of byte ranges: a sequence stands for all
texts of bytes that have one byte of each range.

* `bytesOf`: the encoding of one code point;
* `encodings`: the sequences for a range of code points, in ascending order;
* `CharSet.encodings`: the sequences for a set.
-/

namespace SchemaTree

namespace Pattern

/-- The bytes from `first` to `last`. -/
structure ByteRange where
  first : Nat
  last : Nat
  deriving DecidableEq, Repr

/-- A sequence of byte ranges. -/
abbrev Encoding := List ByteRange

/-- The encoding of a code point. -/
def bytesOf (code : Nat) : List Nat :=
  if code < 0x80 then [code]
  else if code < 0x800 then [0xc0 + code / 64, 0x80 + code % 64]
  else if code < 0x10000 then [0xe0 + code / 4096, 0x80 + code / 64 % 64, 0x80 + code % 64]
  else [0xf0 + code / 262144, 0x80 + code / 4096 % 64, 0x80 + code / 64 % 64, 0x80 + code % 64]

/-- The code points at which the encodings become longer. -/
def lengthSteps : List Nat := [0x80, 0x800, 0x10000]

/-- The numbers of code points that share all bytes but the last one, two or three. -/
def blockSizes : List Nat := [64, 4096, 262144]

/-- Where a range of code points reaches into a block and does not fill it: the start of the next
block, or else of the last one. -/
def blockCut? (first last block : Nat) : Option Nat :=
  if first / block = last / block then none
  else if first % block ≠ 0 then some ((first / block + 1) * block)
  else if last % block ≠ block - 1 then some (last / block * block)
  else none

/-- The code point at which a range has to be cut, if one sequence does not do for all of it. -/
def cut? (first last : Nat) : Option Nat :=
  match lengthSteps.find? fun step => first < step ∧ step ≤ last with
  | some step => some step
  | none => if last < 0x80 then none else blockSizes.findSome? (blockCut? first last)

/-- The sequences for the code points from `first` to `last`, which are no surrogates. -/
def encodings (first last : Nat) : List Encoding :=
  match cut? first last with
  | none => [List.zipWith ByteRange.mk (bytesOf first) (bytesOf last)]
  | some c =>
    if _h : first < c ∧ c ≤ last then encodings first (c - 1) ++ encodings c last
    else []
  termination_by last - first

/-- The sequences for a range of places. -/
def encodingsOfPlaces (first last : Nat) : List Encoding :=
  if first < 0xd800 ∧ 0xd800 ≤ last then
    encodings first 0xd7ff ++ encodings 0xe000 (codePoint last)
  else encodings (codePoint first) (codePoint last)

/-- The sequences for a set, in ascending order. -/
def CharSet.encodings (s : CharSet) : List Encoding :=
  s.ranges.flatMap fun (first, last) => encodingsOfPlaces first last

end Pattern

end SchemaTree
