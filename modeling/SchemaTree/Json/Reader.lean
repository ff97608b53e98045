import SchemaTree.Json.Basic
import SchemaTree.Binary64.Text

/-!
# Reading JSON

A reader of JSON texts that keeps the order of members; a repeated key replaces the earlier value
and keeps its place. An integer between `-2 ^ 63` and `2 ^ 64 - 1` is read as an integer, every
other number as the nearest double; a number too large for a double is an error.

* `Json.readNumber`, `Json.readString`, `Json.readValue` consume a leading value and give the rest;
* `Json.parse?` reads a whole text.
-/

namespace SchemaTree

namespace Json

/-- Blanks between tokens. -/
def isBlank (c : Char) : Bool := c = ' ' ∨ c = '\n' ∨ c = '\r' ∨ c = '\t'

/-- Drops leading blanks. -/
def skipBlanks (cs : List Char) : List Char := cs.dropWhile isBlank

/-! ## Numbers -/

/-- The number of an integer literal: minus zero has no integer. -/
def integerNumber? (negative : Bool) (n : Nat) : Option Number :=
  if negative ∧ 0 < n ∧ n ≤ Nat.pow 2 63 then some (.int (-n))
  else if !negative ∧ n < Nat.pow 2 64 then some (.int n)
  else (Binary64.ofDecimal? negative n 0).map .float

/-- The part of a number after the leading digits: fraction digits and exponent, or nothing. -/
def readScale (cs : List Char) : Option (Option (List Char × Int) × List Char) := do
  let (fraction, rest) ← match cs with
    | '.' :: r =>
      let (ds, r) := r.span Char.isDigit
      if ds = [] then none else some (ds, r)
    | _ => some ([], cs)
  match rest with
  | c :: r =>
    if c = 'e' ∨ c = 'E' then
      let (negative, r) := Binary64.splitSign r
      let (ds, r) := r.span Char.isDigit
      if ds = [] then none
      else
        let e : Int := Binary64.digitsValue ds
        some (some (fraction, if negative then -e else e), r)
    else some (if fraction = [] then none else some (fraction, 0), rest)
  | [] => some (if fraction = [] then none else some (fraction, 0), rest)

/-- Reads a leading number. -/
def readNumber (cs : List Char) : Option (Number × List Char) := do
  let (negative, cs) := match cs with
    | '-' :: r => (true, r)
    | _ => (false, cs)
  let (whole, rest) := cs.span Char.isDigit
  if whole = [] ∨ (whole.head? = some '0' ∧ whole.length ≠ 1) then none
  else
    let (scale, rest) ← readScale rest
    let n ← match scale with
      | none => integerNumber? negative (Binary64.digitsValue whole)
      | some (fraction, e) =>
        (Binary64.ofDecimal? negative (Binary64.digitsValue (whole ++ fraction))
          (e - fraction.length)).map .float
    return (n, rest)

/-! ## Strings -/

/-- The value of a hexadecimal digit. -/
def hexDigit? (c : Char) : Option Nat :=
  if '0' ≤ c ∧ c ≤ '9' then some (c.toNat - 48)
  else if 'a' ≤ c ∧ c ≤ 'f' then some (c.toNat - 87)
  else if 'A' ≤ c ∧ c ≤ 'F' then some (c.toNat - 55)
  else none

/-- The code unit that four hexadecimal digits spell. -/
def codeUnit? (a b c d : Char) : Option Nat := do
  return (((← hexDigit? a) * 16 + (← hexDigit? b)) * 16 + (← hexDigit? c)) * 16 + (← hexDigit? d)

/-- The character of a one-letter escape. -/
def escaped? : Char → Option Char
  | '"' => some '"'
  | '\\' => some '\\'
  | '/' => some '/'
  | 'b' => some '\x08'
  | 'f' => some '\x0c'
  | 'n' => some '\n'
  | 'r' => some '\r'
  | 't' => some '\t'
  | _ => none

/-- Reads a string after its opening quote. `high` is a high surrogate that waits for its low one,
`acc` holds the characters so far in reverse. -/
def readString (high : Option Nat) (acc : List Char) : List Char → Option (String × List Char)
  | '\\' :: 'u' :: a :: b :: c :: d :: r =>
    match codeUnit? a b c d, high with
    | none, _ => none
    | some u, some h =>
      if 0xDC00 ≤ u ∧ u < 0xE000 then
        readString none (Char.ofNat (0x10000 + (h - 0xD800) * 0x400 + (u - 0xDC00)) :: acc) r
      else none
    | some u, none =>
      if 0xD800 ≤ u ∧ u < 0xDC00 then readString (some u) acc r
      else if 0xDC00 ≤ u ∧ u < 0xE000 then none
      else readString none (Char.ofNat u :: acc) r
  | '\\' :: c :: r =>
    match escaped? c, high with
    | some c, none => readString none (c :: acc) r
    | _, _ => none
  | c :: r =>
    if high.isSome ∨ c.toNat < 0x20 ∨ c = '\\' then none
    else if c = '"' then some (String.ofList acc.reverse, r)
    else readString none (c :: acc) r
  | [] => none

/-! ## Values -/

mutual

/-- Reads a leading value; `fuel` bounds the number of values and separators read. -/
def readValue : Nat → List Char → Option (Json × List Char)
  | 0, _ => none
  | fuel + 1, cs =>
    match skipBlanks cs with
    | 'n' :: 'u' :: 'l' :: 'l' :: r => some (.null, r)
    | 't' :: 'r' :: 'u' :: 'e' :: r => some (.bool true, r)
    | 'f' :: 'a' :: 'l' :: 's' :: 'e' :: r => some (.bool false, r)
    | '"' :: r => (readString none [] r).map fun (s, r) => (.string s, r)
    | '[' :: r =>
      match skipBlanks r with
      | ']' :: r => some (.array [], r)
      | r => readElements fuel [] r
    | '\x7b' :: r =>
      match skipBlanks r with
      | '\x7d' :: r => some (.object [], r)
      | r => readMembers fuel [] r
    | r => (readNumber r).map fun (n, r) => (.number n, r)

/-- Reads the elements of an array from the first one that is missing; `acc` holds the earlier ones
in reverse. -/
def readElements : Nat → List Json → List Char → Option (Json × List Char)
  | 0, _, _ => none
  | fuel + 1, acc, cs =>
    match readValue fuel cs with
    | none => none
    | some (v, r) =>
      match skipBlanks r with
      | ',' :: r => readElements fuel (v :: acc) r
      | ']' :: r => some (.array (v :: acc).reverse, r)
      | _ => none

/-- Reads the members of an object from the first one that is missing. -/
def readMembers : Nat → OrderedMap String Json → List Char → Option (Json × List Char)
  | 0, _, _ => none
  | fuel + 1, acc, cs =>
    match skipBlanks cs with
    | '"' :: r =>
      match readString none [] r with
      | none => none
      | some (k, r) =>
        match skipBlanks r with
        | ':' :: r =>
          match readValue fuel r with
          | none => none
          | some (v, r) =>
            match skipBlanks r with
            | ',' :: r => readMembers fuel (OrderedMap.insert acc k v) r
            | '\x7d' :: r => some (.object (OrderedMap.insert acc k v), r)
            | _ => none
        | _ => none
    | _ => none

end

/-- Reads a text that holds one value and blanks. -/
def parse? (s : String) : Option Json :=
  let cs := s.toList
  match readValue (cs.length + 1) cs with
  | some (v, r) => if skipBlanks r = [] then some v else none
  | none => none

end Json

end SchemaTree
