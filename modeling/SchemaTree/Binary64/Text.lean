import SchemaTree.Binary64

/-!
# Texts of doubles

* `Binary64.text` writes the shortest decimal that reads back: positional from `0.00001` up to
  below `10 ^ 16`, in scientific form elsewhere, and never without a point or an exponent;
* `Double` adds one value for the infinities and for what is no number;
* `Binary64.read?` reads decimal texts and the names of the values that are not finite.
-/

namespace SchemaTree

/-- A double that may not be finite. -/
inductive Double where
  | finite (x : Binary64)
  | nonFinite
  deriving DecidableEq, Repr

namespace Binary64

/-! ## Writing -/

/-- Whether a value with this decimal exponent is written without an exponent part. -/
def positional (e : Int) : Bool := -5 ≤ e ∧ e < 16

/-- The text of `digits * 10 ^ k`, where `digits` are the digits of a positive number. -/
def layout (digits : List Char) (k : Int) : List Char :=
  let e := k + digits.length - 1
  if positional e then
    if 0 ≤ k then digits ++ List.replicate k.toNat '0' ++ ['.', '0']
    else if 0 ≤ e then
      digits.take (e.toNat + 1) ++ '.' :: digits.drop (e.toNat + 1)
    else ['0', '.'] ++ List.replicate (-e - 1).toNat '0' ++ digits
  else
    let mantissa := match digits with
      | d :: d' :: ds => d :: '.' :: d' :: ds
      | ds => ds
    mantissa ++ 'e' :: (if e < 0 then '-' else '+') :: Nat.toDigits 10 e.natAbs

/-- The text of a double. -/
def text (x : Binary64) : String :=
  let magnitude :=
    if x.rank.val = 0 then ['0', '.', '0']
    else
      let (c, k) := shortestDigits x.rank
      layout (Nat.toDigits 10 c) k
  String.ofList (if x.negative then '-' :: magnitude else magnitude)

/-! ## Reading -/

/-- The number that a list of decimal digits spells. -/
def digitsValue (ds : List Char) : Nat := ds.foldl (fun n d => 10 * n + (d.toNat - 48)) 0

/-- Splits off a leading sign; `true` is a minus. -/
def splitSign : List Char → Bool × List Char
  | '-' :: cs => (true, cs)
  | '+' :: cs => (false, cs)
  | cs => (false, cs)

/-- The exponent part of a decimal, which may be missing. -/
def readExponent : List Char → Option Int
  | [] => some 0
  | c :: cs =>
    if c = 'e' ∨ c = 'E' then
      let (negative, ds) := splitSign cs
      if ds ≠ [] ∧ ds.all Char.isDigit then
        some (if negative then -(digitsValue ds) else digitsValue ds)
      else none
    else none

/-- An unsigned decimal `digits * 10 ^ exponent`: digits with at most one point, at least one digit
before or after it, and perhaps an exponent part. -/
def readDecimal (cs : List Char) : Option (Nat × Int) :=
  let (whole, rest) := cs.span Char.isDigit
  let (fraction, rest) := match rest with
    | '.' :: rest => rest.span Char.isDigit
    | _ => ([], rest)
  if whole = [] ∧ fraction = [] then none
  else (readExponent rest).map fun e => (digitsValue (whole ++ fraction), e - fraction.length)

/-- The names, in lower case, of values that are not finite. -/
def nonFiniteNames : List String := ["inf", "infinity", "nan"]

/-- Reads a signed decimal, or a signed name, in any case, of a value that is not finite. A decimal
too large for a finite double is not finite. -/
def read? (s : String) : Option Double :=
  let (negative, cs) := splitSign s.toList
  if String.ofList (cs.map Char.toLower) ∈ nonFiniteNames then some .nonFinite
  else (readDecimal cs).map fun (digits, exponent) =>
    match ofDecimal? negative digits exponent with
    | none => .nonFinite
    | some x => .finite x

end Binary64

end SchemaTree
