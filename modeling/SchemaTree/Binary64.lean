/-!
# Finite doubles

A finite binary64 value is a sign and the rank of its magnitude among the non-negative finite
doubles in increasing order. All arithmetic is exact, on natural numbers counted in units of
`2 ^ -1074`, the smallest positive double.

* `unitsOfRank`: the magnitude of a rank, in units;
* `roundHalfEven`, `rankNear`, `ofDecimal?`: the nearest double of a decimal, a tie going to the
  even neighbour;
* `shortestDigits`: the fewest decimal digits that read back as the same double.
-/

namespace SchemaTree

/-- A finite double: its sign, and its rank among the non-negative finite doubles. -/
structure Binary64 where
  negative : Bool
  rank : Fin (2047 * Nat.pow 2 52)
  deriving DecidableEq, Repr

namespace Binary64

/-- The number of non-negative finite doubles. -/
def rankLimit : Nat := 2047 * Nat.pow 2 52

/-- The magnitude of the `r`-th non-negative double, in units of `2 ^ -1074`: the first `2 ^ 52` are
equally spaced, and every later block of `2 ^ 52` doubles the spacing. -/
def unitsOfRank (r : Nat) : Nat :=
  let block := Nat.pow 2 52
  if r < block then r else (block + r % block) * Nat.pow 2 (r / block - 1)

/-! ## The nearest double -/

/-- The integer nearest to `n / d`; a half goes to the even neighbour. -/
def roundHalfEven (n d : Nat) : Nat :=
  let q := n / d
  let r := n % d
  if 2 * r < d ∨ (2 * r = d ∧ q % 2 = 0) then q else q + 1

/-- The rank nearest to `n / d` units. The spacing there is `2 ^ s`, and the doubles of one spacing
are consecutive multiples of it. -/
def rankNear (n d : Nat) : Nat :=
  let s := (n / d).log2 - 52
  s * Nat.pow 2 52 + roundHalfEven n (d * Nat.pow 2 s)

/-- The double nearest to `± digits * 10 ^ exponent`, if that is finite. -/
def ofDecimal? (negative : Bool) (digits : Nat) (exponent : Int) : Option Binary64 :=
  let places : Int := (Nat.toDigits 10 digits).length
  let r :=
    if digits = 0 ∨ places + exponent < -330 then 0
    else if 310 < places + exponent then rankLimit
    else rankNear (digits * Nat.pow 2 1074 * Nat.pow 10 exponent.toNat)
      (Nat.pow 10 (-exponent).toNat)
  if h : r < rankLimit then some ⟨negative, ⟨r, h⟩⟩ else none

/-! ## The shortest decimal -/

/-- The multiple of a grid that stands for `value`, of its two neighbours `c` and `c + 1` in units
of `unit`: the nearer one if both will do, the even one if both are equally near. -/
def pickNeighbour (value unit c : Nat) (downHit upHit : Bool) : Option Nat :=
  let gap := 2 * (value - c * unit)
  if downHit && (!upHit || gap < unit || (gap = unit && c % 2 = 0)) then some c
  else if upHit then some (c + 1)
  else none

/-- The coarsest grid `10 ^ k`, starting from `k` and for `fuel` steps, with a multiple that lies
between the midpoints to the neighbours of the double of rank `r` (midpoints included when the rank
is even, since ties go there), and that multiple. -/
def gridSearch (r : Nat) : Nat → Int → Nat × Int
  | 0, k => (0, k)
  | fuel + 1, k =>
    let up := Nat.pow 10 (-k).toNat
    let unit := Nat.pow 2 1074 * Nat.pow 10 k.toNat
    let value := unitsOfRank r * up
    let low := (unitsOfRank (r - 1) + unitsOfRank r) * up
    let high := (unitsOfRank r + unitsOfRank (r + 1)) * up
    let inside (c : Nat) : Bool :=
      let x := 2 * (c * unit)
      (low < x ∧ x < high) ∨ (r % 2 = 0 ∧ (x = low ∨ x = high))
    let c := value / unit
    match pickNeighbour value unit c (inside c) (inside (c + 1)) with
    | some c => (c, k)
    | none => gridSearch r fuel (k - 1)

/-- The digits `c` and exponent `k` of the shortest decimal `c * 10 ^ k` that reads back as the
double of rank `r`; seventeen digits always suffice. -/
def shortestDigits (r : Nat) : Nat × Int :=
  let bits : Int := (unitsOfRank r).log2 + 1
  gridSearch r 24 ((bits - 1074) * 30103 / 100000 + 2)

end Binary64

end SchemaTree
