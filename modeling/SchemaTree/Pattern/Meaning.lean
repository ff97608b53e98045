import SchemaTree.Pattern.Form
import SchemaTree.Pattern.Property

/-!
# The meaning of expressions

An expression is worked out in a mode: the flags that are on where it stands. A change of flags
lasts until the end of the group around it. Where Unicode is off, a part that may match a byte
outside ASCII has no meaning, because it may split a character.

* `Mode`;
* `ClassSet.set?`: the characters between brackets;
* `Expr.form?`: the form of an expression, with the mode after it.
-/

namespace SchemaTree

namespace Pattern

/-! ## Modes -/

/-- The flags that are on. -/
structure Mode where
  ignoreCase : Bool := false
  multiLine : Bool := false
  dotAll : Bool := false
  swapGreed : Bool := false
  unicode : Bool := true
  crlf : Bool := false

namespace Mode

/-- The mode after a change of flags. -/
def change (m : Mode) (changes : FlagChanges) : Mode where
  ignoreCase := (changes.find? .ignoreCase).getD m.ignoreCase
  multiLine := (changes.find? .multiLine).getD m.multiLine
  dotAll := (changes.find? .dotAll).getD m.dotAll
  swapGreed := (changes.find? .swapGreed).getD m.swapGreed
  unicode := (changes.find? .unicode).getD m.unicode
  crlf := (changes.find? .crlf).getD m.crlf

/-- A set, with everything that is the same but for case if case is ignored. -/
def fold (m : Mode) (s : CharSet) : CharSet :=
  if !m.ignoreCase then s
  else if m.unicode then s.foldCase
  else s.foldAsciiCase

/-- A set or its complement; the complement of a set of ASCII characters is not of ASCII. -/
def negate? (m : Mode) (negated : Bool) (s : CharSet) : Option CharSet :=
  if !negated then some s
  else if m.unicode then some s.complement
  else none

/-- A set or its complement, with case ignored first if it is to be. -/
def finish? (m : Mode) (negated : Bool) (s : CharSet) : Option CharSet :=
  m.negate? negated (m.fold s)

/-- Whether a character can be a member of a set. -/
def admits (m : Mode) (c : Char) : Bool := m.unicode || c.toNat < 0x80

end Mode

/-! ## Sets -/

/-- An operation between sets. -/
def SetOp.apply : SetOp → CharSet → CharSet → CharSet
  | .intersection => CharSet.intersection
  | .difference => CharSet.difference
  | .symmetricDifference => CharSet.symmetricDifference

/-- The characters that a property denotes. -/
def propertySet? (m : Mode) (negated : Bool) (p : Property) : Option CharSet :=
  if m.unicode then p.set?.bind (m.finish? negated) else none

/-- The characters of a class of one letter, which ignores case anyway. -/
def letterSet? (m : Mode) (negated : Bool) (c : LetterClass) : Option CharSet :=
  m.negate? negated (c.set m.unicode)

mutual

/-- The characters of a set. -/
def ClassSet.set? (m : Mode) : ClassSet → Option CharSet
  | .empty => some .empty
  | .literal l => if m.admits l.char then some (.single l.char) else none
  | .range first last =>
    if m.admits first.char && m.admits last.char then some (.range first.char.toNat last.char.toNat)
    else none
  | .posix negated name => m.finish? negated (posixSet name)
  | .property negated p => propertySet? m negated p
  | .letter negated c => letterSet? m negated c
  | .bracketed negated set => (set.set? m).bind (m.finish? negated)
  | .union sets => (setsOf? m sets).map .unions
  | .combine op left right => do
    let l ← left.set? m
    let r ← right.set? m
    return op.apply (m.fold l) (m.fold r)

/-- The characters of each set of a list. -/
def setsOf? (m : Mode) : List ClassSet → Option (List CharSet)
  | [] => some []
  | s :: ss => do return (← s.set? m) :: (← setsOf? m ss)

end

/-! ## Expressions -/

/-- The form of a set that stands in an expression. -/
def Mode.form (m : Mode) (s : CharSet) : Form := .ofSet (!m.unicode) s

/-- The form of a literal. Without Unicode a byte outside ASCII is no text, and only the letters of
ASCII have a case. -/
def Literal.form? (m : Mode) (l : Literal) : Option Form :=
  if l.byteEscape && !m.admits l.char then none
  else if m.admits l.char then some (m.form (m.fold (.single l.char)))
  else some (.literal [l.char])

/-- The characters that a dot stands for. -/
def dotSet (m : Mode) : CharSet :=
  if m.dotAll then .full
  else if m.crlf then (CharSet.ofText "a d").complement
  else (CharSet.single '\n').complement

/-- What an anchor asks for; lines have ends of their own in multi-line mode only. -/
def Anchor.look (m : Mode) : Anchor → Look
  | .lineStart => if m.multiLine then .lineStart m.crlf else .textStart
  | .lineEnd => if m.multiLine then .lineEnd m.crlf else .textEnd
  | .textStart => .textStart
  | .textEnd => .textEnd
  | .wordBoundary => .word .boundary m.unicode
  | .notWordBoundary => .word .notBoundary m.unicode
  | .wordStart => .word .start m.unicode
  | .wordEnd => .word .stop m.unicode
  | .wordStartHalf => .word .startHalf m.unicode
  | .wordEndHalf => .word .stopHalf m.unicode

mutual

/-- The form of an expression, with the mode after it. -/
def Expr.form? (m : Mode) : Expr → Option (Form × Mode)
  | .empty => some (.empty, m)
  | .flags changes => some (.empty, m.change changes)
  | .literal l => (l.form? m).map (·, m)
  | .dot => if m.unicode then some (m.form (dotSet m), m) else none
  | .anchor a => some (.look (a.look m), m)
  | .property negated p => (propertySet? m negated p).map (m.form ·, m)
  | .letter negated c => (letterSet? m negated c).map (m.form ·, m)
  | .bracketed negated set =>
    ((ClassSet.bracketed negated set).set? m).map (m.form ·, m)
  | .repetition e min max greedy => do
    let (part, m) ← e.form? m
    return (.repeated min max (greedy != m.swapGreed) part, m)
  | .group (.plain changes) e => (e.form? (m.change changes)).map fun (part, _) => (part, m)
  | .group _ e => (e.form? m).map fun (part, _) => (.capture part, m)
  | .alternation branches => (formsOf? m branches).map fun (parts, m) => (.choice parts, m)
  | .concat items => (formsOf? m items).map fun (parts, m) => (.sequence parts, m)

/-- The forms of a list of expressions, with the mode after them. -/
def formsOf? (m : Mode) : List Expr → Option (List Form × Mode)
  | [] => some ([], m)
  | e :: es => do
    let (part, m) ← e.form? m
    let (parts, m) ← formsOf? m es
    return (part :: parts, m)

end

end Pattern

end SchemaTree
