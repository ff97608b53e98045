/-!
# Pattern expressions

The trees of the regular expressions that a string constraint may carry.

* `ClassSet`: what stands between brackets, with nested brackets and set operations;
* `Expr`: a whole expression;
* `ClassSet.depth`, `Expr.depth`: how deeply an expression is nested.
-/

namespace SchemaTree

namespace Pattern

/-- A switch that a group can turn on or off. -/
inductive Flag where
  | ignoreCase
  | multiLine
  | dotAll
  | swapGreed
  | unicode
  | crlf
  | verbose
  deriving DecidableEq, Repr

/-- The switches that a group turns on, and those that it turns off. -/
structure FlagChanges where
  on : List Flag
  off : List Flag
  deriving DecidableEq, Repr

/-- The new state of a flag, if it is changed. -/
def FlagChanges.find? (changes : FlagChanges) (f : Flag) : Option Bool :=
  if f ∈ changes.on then some true
  else if f ∈ changes.off then some false
  else none

/-- A position that consumes nothing. -/
inductive Anchor where
  | lineStart
  | lineEnd
  | textStart
  | textEnd
  | wordBoundary
  | notWordBoundary
  | wordStart
  | wordEnd
  | wordStartHalf
  | wordEndHalf
  deriving DecidableEq, Repr

/-- The classes with one-letter escapes. -/
inductive LetterClass where
  | digit
  | space
  | word
  deriving DecidableEq, Repr

/-- A character as written; `byteEscape` marks a two-digit `\x` escape, which stands for a byte
where Unicode is off. -/
structure Literal where
  char : Char
  byteEscape : Bool
  deriving DecidableEq, Repr

/-- A Unicode property: a name alone, or a property with a value. -/
inductive Property where
  | named (name : String)
  | valued (name value : String)
  deriving DecidableEq, Repr

/-- The operations between sets of characters. -/
inductive SetOp where
  | intersection
  | difference
  | symmetricDifference
  deriving DecidableEq, Repr

/-- A set of characters as written between brackets. -/
inductive ClassSet where
  | empty
  | literal (l : Literal)
  | range (first last : Literal)
  | posix (negated : Bool) (name : String)
  | property (negated : Bool) (p : Property)
  | letter (negated : Bool) (c : LetterClass)
  | bracketed (negated : Bool) (set : ClassSet)
  | union (sets : List ClassSet)
  | combine (op : SetOp) (left right : ClassSet)
  deriving Repr

/-- What a pair of parentheses does besides grouping. -/
inductive GroupKind where
  | capture
  | named (name : String)
  | plain (changes : FlagChanges)
  deriving DecidableEq, Repr

/-- A pattern expression. A greedy repetition prefers more rounds, any other one fewer. -/
inductive Expr where
  | empty
  | flags (changes : FlagChanges)
  | literal (l : Literal)
  | dot
  | anchor (a : Anchor)
  | property (negated : Bool) (p : Property)
  | letter (negated : Bool) (c : LetterClass)
  | bracketed (negated : Bool) (set : ClassSet)
  | repetition (e : Expr) (min : Nat) (max : Option Nat) (greedy : Bool)
  | group (kind : GroupKind) (e : Expr)
  | alternation (branches : List Expr)
  | concat (items : List Expr)
  deriving Repr

/-- The concatenation of items, which are given in reverse. -/
def Expr.ofItems : List Expr → Expr
  | [] => .empty
  | [e] => e
  | es => .concat es.reverse

/-- The alternation of the branches `done`, given in reverse, and a last branch. -/
def Expr.ofBranches (done : List Expr) (last : Expr) : Expr :=
  if done.isEmpty then last else .alternation (done.reverse ++ [last])

/-- The union of items, which are given in reverse. -/
def ClassSet.ofItems : List ClassSet → ClassSet
  | [] => .empty
  | [s] => s
  | ss => .union ss.reverse

/-! ## Depth -/

mutual

/-- The number of brackets, unions and operations around the innermost item. -/
def ClassSet.depth : ClassSet → Nat
  | .bracketed _ set => set.depth + 1
  | .union sets => depthOfSets sets + 1
  | .combine _ left right => max left.depth right.depth + 1
  | _ => 0

/-- The greatest depth in a list of sets. -/
def depthOfSets : List ClassSet → Nat
  | [] => 0
  | s :: ss => max s.depth (depthOfSets ss)

end

mutual

/-- The number of compound expressions around the innermost item. -/
def Expr.depth : Expr → Nat
  | .bracketed _ set => set.depth + 1
  | .repetition e _ _ _ => e.depth + 1
  | .group _ e => e.depth + 1
  | .alternation branches => depthOfExprs branches + 1
  | .concat items => depthOfExprs items + 1
  | _ => 0

/-- The greatest depth in a list of expressions. -/
def depthOfExprs : List Expr → Nat
  | [] => 0
  | e :: es => max e.depth (depthOfExprs es)

end

end Pattern

end SchemaTree
