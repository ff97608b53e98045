import SchemaTree.Pattern.Expr
import SchemaTree.Pattern.Unicode.Ages
import SchemaTree.Pattern.Unicode.Breaks

/-!
# Named sets of characters

Property names are compared loosely: case, blanks, underscores, hyphens and a leading `is` do not
count. The tables hold the names in that loose form.

* `looseName`: the loose form of a name;
* `Property.set?`: the characters that a property, with its value if there is one, denotes;
* `posixSet`, `LetterClass.set`: the classes that are written `[:name:]`, and those of one letter.
-/

namespace SchemaTree

namespace Pattern

/-- A name without case, blanks, underscores, hyphens, characters beyond ASCII and a leading `is`,
but `isc` keeps it. -/
def looseName (name : String) : String :=
  let strip (cs : List Char) : List Char :=
    (cs.filter fun c => c ≠ ' ' ∧ c ≠ '_' ∧ c ≠ '-' ∧ c.toNat < 0x80).map Char.toLower
  match name.toList with
  | i :: s :: cs =>
    if i.toLower = 'i' ∧ s.toLower = 's' then
      let rest := strip cs
      String.ofList (if rest = ['c'] then ['i', 's', 'c'] else rest)
    else String.ofList (strip (i :: s :: cs))
  | cs => String.ofList (strip cs)

/-- The set with a loose name. -/
def lookUp (table : List (List String × CharSet)) (name : String) : Option CharSet :=
  (table.find? fun (names, _) => name ∈ names).map (·.2)

/-- The tables of properties that have named values. -/
def valueTables : List (List String × List (List String × CharSet)) := [
  (["generalcategory", "gc"], Unicode.categories),
  (["script", "sc"], Unicode.scripts),
  (["scriptextensions", "scx"], Unicode.scriptExtensions),
  (["graphemeclusterbreak", "gcb"], Unicode.graphemeBreaks),
  (["wordbreak", "wb"], Unicode.wordBreaks),
  (["sentencebreak", "sb"], Unicode.sentenceBreaks)]

/-- The characters that a property denotes. A name alone is a property that holds or not, a category
or a script. -/
def Property.set? : Property → Option CharSet
  | .named name =>
    let n := looseName name
    lookUp Unicode.properties n <|> lookUp Unicode.categories n <|> lookUp Unicode.scripts n
  | .valued name value =>
    let n := looseName name
    let v := looseName value
    if n = "age" then Unicode.upToAge? v
    else (valueTables.find? fun (names, _) => n ∈ names).bind fun (_, table) => lookUp table v

/-- The characters of a class that is written `[:name:]`. -/
def posixSet (name : String) : CharSet :=
  match name with
  | "alnum" => .ofText "30-39 41-5a 61-7a"
  | "alpha" => .ofText "41-5a 61-7a"
  | "ascii" => .ofText "0-7f"
  | "blank" => .ofText "9 20"
  | "cntrl" => .ofText "0-1f 7f"
  | "digit" => .ofText "30-39"
  | "graph" => .ofText "21-7e"
  | "lower" => .ofText "61-7a"
  | "print" => .ofText "20-7e"
  | "punct" => .ofText "21-2f 3a-40 5b-60 7b-7e"
  | "space" => .ofText "9-d 20"
  | "upper" => .ofText "41-5a"
  | "word" => .ofText "30-39 41-5a 5f 61-7a"
  | "xdigit" => .ofText "30-39 41-46 61-66"
  | _ => .empty

/-- The characters of a class of one letter; where Unicode is off, those of ASCII. -/
def LetterClass.set (unicode : Bool) : LetterClass → CharSet
  | .digit => if unicode then Unicode.decimalNumber else posixSet "digit"
  | .space => if unicode then Unicode.whiteSpace else posixSet "space"
  | .word => if unicode then Unicode.word else posixSet "word"

end Pattern

end SchemaTree
