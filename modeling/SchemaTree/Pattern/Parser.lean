import SchemaTree.Pattern.Expr
import SchemaTree.Pattern.Unicode.Derived

/-!
# Reading patterns

A recursive reader of pattern expressions. In verbose mode, which the flag `x` turns on, blanks and
comments between tokens do not count. Every step of the two loops consumes a character, so the
length of the pattern bounds them. The sets that a pattern denotes follow Unicode 16; the names of
groups may also hold what Unicode 17 adds.

* `isBlank`, `isAlphabetic`, `isNumeric`: the characters that the notation itself asks for;
* `escape`: what follows a backslash;
* `classBody`: what stands between brackets;
* `branches`: the branches of an alternation, up to a closing parenthesis or the end;
* `parse?`: a whole pattern.
-/

namespace SchemaTree

namespace Pattern

/-! ## Letters, numbers and blanks -/

/-- The alphabetic characters that Unicode 17 adds. -/
def addedAlphabetic : CharSet := .ofText
  "88f c5c cdc a7ce-a7cf a7d2 a7d4 a7f1 10940-10959 10ec5-10ec7 10efa-10efb 11b60-11b67
  11db0-11ddb 16ea0-16eb8 16ebb-16ed3 16ff2-16ff6 187f8-187ff 18d09-18d1e 18d80-18df2
  1e6c0-1e6de 1e6e0-1e6f5 1e6fe-1e6ff 2b73a-2b73f 2cea2-2cead 323b0-33479"

/-- The numbers that Unicode 17 adds. -/
def addedNumbers : CharSet := .ofText "11de0-11de9 16ff4-16ff6"

/-- Whether a character is blank. -/
def isBlank (c : Char) : Bool := Unicode.whiteSpace.has c

/-- Whether a character is alphabetic. -/
def isAlphabetic (c : Char) : Bool := Unicode.alphabetic.has c || addedAlphabetic.has c

/-- Whether a character is a number. -/
def isNumeric (c : Char) : Bool := Unicode.number.has c || addedNumbers.has c

/-! ## Readers -/

/-- What a reader has before it: the rest of the text, whether verbose mode is on, and the names
that groups have taken. -/
structure Input where
  rest : List Char
  verbose : Bool := false
  names : List String := []

/-- A reader of a part of a pattern. -/
abbrev Parser := StateT Input Option

/-! ## Blanks and runs of characters -/

/-- Drops blanks and comments; `comment` says whether a comment has begun. -/
def dropComments : Bool → List Char → List Char
  | _, [] => []
  | true, c :: cs => dropComments (c ≠ '\n') cs
  | false, c :: cs =>
    if isBlank c then dropComments false cs
    else if c = '#' then dropComments true cs
    else c :: cs

/-- Drops blanks and comments in verbose mode. -/
def skip (verbose : Bool) (cs : List Char) : List Char :=
  if verbose then dropComments false cs else cs

/-- At most `n` leading characters that satisfy `p`, with what follows; in verbose mode blanks after
each of them are dropped. -/
def run (verbose : Bool) (p : Char → Bool) : Nat → List Char → List Char × List Char
  | 0, cs => ([], cs)
  | _ + 1, [] => ([], [])
  | n + 1, c :: cs =>
    if p c then
      let (ds, rest) := run verbose p n (skip verbose cs)
      (c :: ds, rest)
    else ([], c :: cs)

/-- Sets what is left to read. -/
def setRest (cs : List Char) : Parser Unit := modify fun s => { s with rest := cs }

/-- Drops blanks and comments in verbose mode. -/
def skipSpace : Parser Unit := modify fun s => { s with rest := skip s.verbose s.rest }

/-- Continues after a character that has been seen, without blanks. -/
def advanceTo (cs : List Char) : Parser Unit := do
  setRest cs
  skipSpace

/-- Reads all leading characters that satisfy `p`. -/
def takeRun (p : Char → Bool) : Parser (List Char) := do
  let s ← get
  let (ds, rest) := run s.verbose p s.rest.length s.rest
  setRest rest
  return ds

/-- Requires the next character. -/
def expect (c : Char) : Parser Unit := do
  match (← get).rest with
  | d :: cs => if d = c then setRest cs else failure
  | [] => failure

/-! ## Numbers -/

/-- The value of a digit in the given base, if it is one. -/
def digitValue? (base : Nat) (c : Char) : Option Nat :=
  let v :=
    if '0' ≤ c ∧ c ≤ '9' then c.toNat - 48
    else if 'a' ≤ c ∧ c ≤ 'f' then c.toNat - 87
    else if 'A' ≤ c ∧ c ≤ 'F' then c.toNat - 55
    else base
  if v < base then some v else none

/-- The number below `2 ^ 32` that digits spell in the given base; there has to be a digit. -/
def number? (base : Nat) (ds : List Char) : Option Nat := do
  if ds.isEmpty then failure
  let n ← ds.foldlM (fun n d => (digitValue? base d).map (base * n + ·)) 0
  if n < Nat.pow 2 32 then some n else none

/-- The character with a given code point, if there is one. -/
def charOf? (n : Nat) : Option Char := if h : n.isValidChar then some (Char.ofNatAux n h) else none

/-- Reads a decimal number, with blanks around it. -/
def decimal : Parser Nat := do
  modify fun s => { s with rest := s.rest.dropWhile isBlank }
  let ds ← takeRun fun c => '0' ≤ c ∧ c ≤ '9'
  let _ ← takeRun isBlank
  number? 10 ds

/-! ## Escapes -/

/-- The characters with a meaning of their own. -/
def isMeta (c : Char) : Bool :=
  c ∈ ['\\', '.', '+', '*', '?', '(', ')', '|', '[', ']', '\x7b', '\x7d', '^', '$', '#', '&', '-',
    '~']

/-- The characters that a backslash leaves as they are: those with a meaning of their own, and the
ASCII characters that are no letters, digits or angle brackets. -/
def isEscapable (c : Char) : Bool :=
  isMeta c ∨ (c.toNat < 0x80 ∧ !c.isAlphanum ∧ c ≠ '<' ∧ c ≠ '>')

/-- The control characters with one-letter escapes. -/
def control? : Char → Option Char
  | 'a' => some '\x07'
  | 'f' => some '\x0c'
  | 't' => some '\t'
  | 'n' => some '\n'
  | 'r' => some '\r'
  | 'v' => some '\x0b'
  | _ => none

/-- The classes with one-letter escapes; a capital negates. -/
def letterClass? : Char → Option (Bool × LetterClass)
  | 'd' => some (false, .digit)
  | 'D' => some (true, .digit)
  | 's' => some (false, .space)
  | 'S' => some (true, .space)
  | 'w' => some (false, .word)
  | 'W' => some (true, .word)
  | _ => none

/-- The anchors with one-letter escapes. -/
def anchor? : Char → Option Anchor
  | 'A' => some .textStart
  | 'z' => some .textEnd
  | 'B' => some .notWordBoundary
  | '<' => some .wordStart
  | '>' => some .wordEnd
  | _ => none

/-- The word boundaries that stand in braces. -/
def namedBoundary? (name : List Char) : Option Anchor :=
  match String.ofList name with
  | "start" => some .wordStart
  | "end" => some .wordEnd
  | "start-half" => some .wordStartHalf
  | "end-half" => some .wordEndHalf
  | _ => none

/-- Reads a code point in hexadecimal: the given number of digits, or any number in braces. -/
def hexLiteral (digits : Nat) : Parser Literal := do
  skipSpace
  let s ← get
  match s.rest with
  | '\x7b' :: cs =>
    advanceTo cs
    let ds ← takeRun (· ≠ '\x7d')
    expect '\x7d'
    skipSpace
    let n ← number? 16 ds
    return ⟨← charOf? n, false⟩
  | cs =>
    let (ds, rest) := run s.verbose (fun _ => true) digits cs
    if ds.length ≠ digits then failure
    setRest rest
    let n ← number? 16 ds
    return ⟨← charOf? n, digits = 2⟩

/-- Splits at the first occurrence of a separator. -/
def splitAt? (sep : List Char) : List Char → Option (List Char × List Char)
  | [] => if sep = [] then some ([], []) else none
  | c :: cs =>
    if sep.isPrefixOf (c :: cs) then some ([], (c :: cs).drop sep.length)
    else (splitAt? sep cs).map fun (l, r) => (c :: l, r)

/-- The property that the text in braces names: a value may follow `!=`, `:` or `=`, and which of
them it is makes no difference. -/
def propertyOf (name : List Char) : Property :=
  match splitAt? ['!', '='] name <|> splitAt? [':'] name <|> splitAt? ['='] name with
  | some (n, v) => .valued (String.ofList n) (String.ofList v)
  | none => .named (String.ofList name)

/-- Reads a property after its letter: one character, or a text in braces. -/
def property : Parser Property := do
  skipSpace
  match (← get).rest with
  | [] => failure
  | '\x7b' :: cs =>
    advanceTo cs
    let name ← takeRun (· ≠ '\x7d')
    expect '\x7d'
    return propertyOf name
  | c :: cs =>
    if c = '\\' then failure
    advanceTo cs
    return .named (String.singleton c)

/-- Reads the braces that may follow an escaped `b`. Braces that begin with neither a letter nor a
hyphen are left to be read as a repetition. -/
def wordBoundary : Parser Anchor := do
  let s ← get
  match s.rest with
  | '\x7b' :: cs =>
    advanceTo cs
    let named (c : Char) : Bool := c.isAlpha ∨ c = '-'
    match (← get).rest with
    | [] => failure
    | c :: _ =>
      if named c then
        let name ← takeRun named
        expect '\x7d'
        namedBoundary? name
      else
        set s
        return .wordBoundary
  | _ => return .wordBoundary

/-- Reads what follows a backslash. -/
def escape : Parser Expr := do
  match (← get).rest with
  | [] => failure
  | c :: cs =>
    setRest cs
    if c = 'x' then return .literal (← hexLiteral 2)
    else if c = 'u' then return .literal (← hexLiteral 4)
    else if c = 'U' then return .literal (← hexLiteral 8)
    else if c = 'p' ∨ c = 'P' then return .property (c = 'P') (← property)
    else if c = 'b' then return .anchor (← wordBoundary)
    else if isEscapable c then return .literal ⟨c, false⟩
    else match letterClass? c, control? c, anchor? c with
      | some (negated, l), _, _ => return .letter negated l
      | none, some c, _ => return .literal ⟨c, false⟩
      | none, none, some a => return .anchor a
      | none, none, none => failure

/-! ## Brackets -/

/-- The classes that are written `[:name:]`. -/
def posixNames : List String := [
  "alnum", "alpha", "ascii", "blank", "cntrl", "digit", "graph", "lower", "print", "punct",
  "space", "upper", "word", "xdigit"]

/-- A class `[:name:]` after its opening bracket, with what follows. -/
def posix? : List Char → Option (ClassSet × List Char)
  | ':' :: cs =>
    let (negated, cs) := match cs with
      | '^' :: r => (true, r)
      | _ => (false, cs)
    match cs.span (· ≠ ':') with
    | (name, ':' :: ']' :: rest) =>
      if String.ofList name ∈ posixNames then some (.posix negated (String.ofList name), rest)
      else none
    | _ => none
  | _ => none

/-- The character after blanks and the sign of a comment, in verbose mode; if there is none, the
first character. -/
def peekSpace (verbose : Bool) (cs : List Char) : Option Char :=
  let rec look : Bool → List Char → Option Char
    | _, [] => none
    | comment, c :: cs =>
      if isBlank c then look comment cs
      else if !comment ∧ c = '#' then look true cs
      else some c
  if verbose then look false cs <|> cs.head? else cs.head?

/-- Reads one character or escape between brackets. -/
def classItem : Parser Expr := do
  match (← get).rest with
  | [] => failure
  | '\\' :: cs =>
    setRest cs
    escape
  | c :: cs =>
    setRest cs
    return .literal ⟨c, false⟩

/-- The set that an item denotes between brackets; anchors denote none. -/
def setOfItem? : Expr → Option ClassSet
  | .literal l => some (.literal l)
  | .property negated p => some (.property negated p)
  | .letter negated c => some (.letter negated c)
  | _ => none

/-- Reads an item, or a range of characters. A hyphen before `]` or another hyphen makes none. -/
def classRange : Parser ClassSet := do
  let item ← classItem
  skipSpace
  let s ← get
  match s.rest with
  | '-' :: cs =>
    let after := peekSpace s.verbose cs
    if after = some ']' ∨ after = some '-' then setOfItem? item
    else
      advanceTo cs
      match item, ← classItem with
      | .literal first, .literal last =>
        if first.char ≤ last.char then return .range first last else failure
      | _, _ => failure
  | _ => setOfItem? item

/-- Reads what may follow an opening bracket: a sign of negation, hyphens, and a closing bracket
that stands for itself. -/
def classHeader : Parser (Bool × List ClassSet) := do
  skipSpace
  let negated ← match (← get).rest with
    | '^' :: cs => do
      advanceTo cs
      pure true
    | _ => pure false
  let hyphens ← takeRun (· = '-')
  let items := hyphens.map fun c => ClassSet.literal ⟨c, false⟩
  match items, (← get).rest with
  | [], ']' :: cs =>
    advanceTo cs
    return (negated, [.literal ⟨']', false⟩])
  | _, _ => return (negated, items)

/-- The set of the items since the last operation, joined with what stands before it. -/
def closeSet (pending : Option (SetOp × ClassSet)) (items : List ClassSet) : ClassSet :=
  match pending with
  | none => .ofItems items
  | some (op, left) => .combine op left (.ofItems items)

/-- Reads up to the closing bracket. `items` are the items since the last operation in reverse,
`pending` is that operation with its left side. -/
def classBody : Nat → Option (SetOp × ClassSet) → List ClassSet → Parser ClassSet
  | 0, _, _ => failure
  | fuel + 1, pending, items => do
    skipSpace
    let next (op : SetOp) (cs : List Char) : Parser ClassSet := do
      setRest cs
      classBody fuel (some (op, closeSet pending items)) []
    match (← get).rest with
    | [] => failure
    | '[' :: cs =>
      match posix? cs with
      | some (item, rest) =>
        setRest rest
        classBody fuel pending (item :: items)
      | none =>
        setRest cs
        let (negated, first) ← classHeader
        let inner ← classBody fuel none first
        classBody fuel pending (.bracketed negated inner :: items)
    | ']' :: cs =>
      setRest cs
      return closeSet pending items
    | '&' :: '&' :: cs => next .intersection cs
    | '-' :: '-' :: cs => next .difference cs
    | '~' :: '~' :: cs => next .symmetricDifference cs
    | _ =>
      let item ← classRange
      classBody fuel pending (item :: items)

/-! ## Groups -/

/-- The flag of a letter. -/
def flag? : Char → Option Flag
  | 'i' => some .ignoreCase
  | 'm' => some .multiLine
  | 's' => some .dotAll
  | 'U' => some .swapGreed
  | 'u' => some .unicode
  | 'R' => some .crlf
  | 'x' => some .verbose
  | _ => none

/-- The flags that letters name, none of them twice. -/
def flagSet? (seen : List Flag) : List Char → Option (List Flag)
  | [] => some []
  | c :: cs => do
    let f ← flag? c
    if f ∈ seen then failure
    return f :: (← flagSet? (f :: seen) cs)

/-- The changes that the letters of a group name; those after a hyphen are turned off. -/
def flagChanges? (cs : List Char) : Option FlagChanges := do
  match cs.span (· ≠ '-') with
  | (on, []) => return ⟨← flagSet? [] on, []⟩
  | (_, ['-']) => failure
  | (on, _ :: off) =>
    let on ← flagSet? [] on
    return ⟨on, ← flagSet? on off⟩

/-- Whether a character may stand in the name of a group. -/
def isNameChar (first : Bool) (c : Char) : Bool :=
  c = '_' ∨ isAlphabetic c ∨ (!first ∧ (c = '.' ∨ c = '[' ∨ c = ']' ∨ isNumeric c))

/-- Reads the name of a group up to its closing angle bracket; no two groups share a name. -/
def groupName : Parser String := do
  let s ← get
  match s.rest.span (· ≠ '>') with
  | (c :: cs, _ :: rest) =>
    let name := String.ofList (c :: cs)
    if isNameChar true c ∧ cs.all (isNameChar false) ∧ name ∉ s.names then
      set { s with rest := rest, names := name :: s.names }
      return name
    else failure
  | _ => failure

/-- Reads what may follow an opening parenthesis: a name, or flags. Flags alone, without a group,
are given on the left. Looking around is refused. -/
def groupHeader : Parser (FlagChanges ⊕ GroupKind) := do
  skipSpace
  match (← get).rest with
  | '?' :: '=' :: _ | '?' :: '!' :: _ | '?' :: '<' :: '=' :: _ | '?' :: '<' :: '!' :: _ => failure
  | '?' :: 'P' :: '<' :: cs | '?' :: '<' :: cs =>
    setRest cs
    return .inr (.named (← groupName))
  | '?' :: cs =>
    let (letters, rest) := cs.span fun c => c ≠ ':' ∧ c ≠ ')'
    let changes ← flagChanges? letters
    match rest with
    | ':' :: rest =>
      setRest rest
      return .inr (.plain changes)
    | ')' :: rest =>
      if letters.isEmpty then failure
      setRest rest
      return .inl changes
    | _ => failure
  | _ => return .inr .capture

/-! ## Expressions -/

/-- Repeats the last item: there has to be one, and a change of flags is none. -/
def repeatLast (min : Nat) (max : Option Nat) (greedy : Bool) : List Expr → Option (List Expr)
  | [] | .empty :: _ | .flags _ :: _ => none
  | e :: es => some (.repetition e min max greedy :: es)

/-- Reads the sign that makes a repetition prefer fewer rounds; without it, more are preferred. -/
def greed : Parser Bool := do
  match (← get).rest with
  | '?' :: cs =>
    setRest cs
    return false
  | _ => return true

/-- Reads the bounds of a repetition after the opening brace. -/
def bounds : Parser (Nat × Option Nat) := do
  skipSpace
  let min ← decimal
  match (← get).rest with
  | ',' :: cs =>
    advanceTo cs
    match (← get).rest with
    | '\x7d' :: cs =>
      advanceTo cs
      return (min, none)
    | _ =>
      let max ← decimal
      expect '\x7d'
      skipSpace
      if min ≤ max then return (min, some max) else failure
  | _ =>
    expect '\x7d'
    skipSpace
    return (min, some min)

/-- Reads the branches of an alternation up to a closing parenthesis or the end. `done` are the
branches and `items` the items of the current branch so far, both in reverse. -/
def branches : Nat → List Expr → List Expr → Parser Expr
  | 0, _, _ => failure
  | fuel + 1, done, items => do
    skipSpace
    let again (min : Nat) (max : Option Nat) : Parser Expr := do
      let items ← repeatLast min max (← greed) items
      branches fuel done items
    match (← get).rest with
    | [] | ')' :: _ => return Expr.ofBranches done (.ofItems items)
    | '|' :: cs =>
      setRest cs
      branches fuel (.ofItems items :: done) []
    | '(' :: cs =>
      setRest cs
      let outer := (← get).verbose
      match ← groupHeader with
      | .inl changes =>
        modify fun s => { s with verbose := (changes.find? .verbose).getD outer }
        branches fuel done (.flags changes :: items)
      | .inr kind =>
        if let .plain changes := kind then
          modify fun s => { s with verbose := (changes.find? .verbose).getD outer }
        let inner ← branches fuel [] []
        expect ')'
        modify fun s => { s with verbose := outer }
        branches fuel done (.group kind inner :: items)
    | '[' :: cs =>
      setRest cs
      let (negated, first) ← classHeader
      let set ← classBody fuel none first
      branches fuel done (.bracketed negated set :: items)
    | '?' :: cs =>
      setRest cs
      again 0 (some 1)
    | '*' :: cs =>
      setRest cs
      again 0 none
    | '+' :: cs =>
      setRest cs
      again 1 none
    | '\x7b' :: cs =>
      setRest cs
      let (min, max) ← bounds
      again min max
    | '\\' :: cs =>
      setRest cs
      let e ← escape
      branches fuel done (e :: items)
    | c :: cs =>
      setRest cs
      let e : Expr := match c with
        | '.' => .dot
        | '^' => .anchor .lineStart
        | '$' => .anchor .lineEnd
        | c => .literal ⟨c, false⟩
      branches fuel done (e :: items)

/-- The expression that a text spells, if it spells one. -/
def parse? (s : String) : Option Expr :=
  let cs := s.toList
  match (branches (cs.length + 1) [] []).run { rest := cs } with
  | some (e, input) => if input.rest.isEmpty then some e else none
  | none => none

end Pattern

end SchemaTree
