import SchemaTree.Converter

/-!
# Profiles

A profile is a table of converters with conventions for definitions and dialect.

* `Profile.draft4`: draft-04, with null for what may be missing;
* `Profile.draft4DecimalString`: the same, with decimals as strings;
* `Profile.swagger2`: Swagger 2, with definitions and without null.
-/

namespace SchemaTree

/-- The converters of kinds, in the order in which they were registered. -/
abbrev Table := OrderedMap Kind Converter

/-- A table of converters with its conventions. -/
inductive Profile where
  | draft4
  | draft4DecimalString
  | swagger2
  deriving DecidableEq, Repr

namespace Profile

/-! ## Draft-04 -/

/-- The rules for draft-04 strings. -/
def draft4StringRules : List Rule := [Rule.stringLength, Rule.textForm, Rule.stringChoices]

/-- A draft-04 string with further steps. -/
def draft4String (last : List Step) : Recipe :=
  ⟨"string", [Step.fullBase, Step.nonEmpty, Step.rules draft4StringRules] ++ last⟩

/-- A draft-04 number. -/
def draft4Number (typeName : String) : Recipe :=
  ⟨typeName, [Step.fullBase, Step.rules [Rule.range, Rule.numberChoices]]⟩

/-- A draft-04 decimal, written as a string. -/
def draft4Decimal (defaultScale : Option Nat) : Recipe :=
  ⟨"string", [Step.fullBase, Step.nonEmpty, Step.decimal defaultScale,
    Step.rules draft4StringRules]⟩

/-- The converters of draft-04. -/
def draft4Kinds : OrderedMap Kind Recipe := [
  (.boolean, ⟨"boolean", [Step.fullBase]⟩),
  (.date, draft4String [Step.format "date"]),
  (.dateTime, draft4String [Step.format "date-time"]),
  (.number, draft4Number "number"),
  (.integer, draft4Number "integer"),
  (.object, ⟨"object", [Step.fullBase, Step.properties]⟩),
  (.array, ⟨"array", [Step.fullBase, Step.rules [Rule.arrayLength], Step.items]⟩),
  (.string, draft4String []),
  (.time, draft4String [Step.format "time"])]

/-- The converters of decimals as strings; money has two places unless it says otherwise. -/
def decimalStringKinds : OrderedMap Kind Recipe := [
  (.decimal, draft4Decimal none),
  (.money, draft4Decimal (some 2))]

/-! ## Swagger 2 -/

/-- A Swagger string with a fixed format. -/
def swagger2Formatted (format : String) : Recipe :=
  ⟨"string", [Step.plainBase, Step.format format]⟩

/-- A Swagger number. -/
def swagger2Number (typeName : String) : Recipe :=
  ⟨typeName, [Step.plainBase, Step.rules [Rule.range, Rule.choices]]⟩

/-- The converters of Swagger 2. -/
def swagger2Kinds : OrderedMap Kind Recipe := [
  (.boolean, ⟨"boolean", [Step.plainBase]⟩),
  (.date, swagger2Formatted "date"),
  (.dateTime, swagger2Formatted "date-time"),
  (.number, swagger2Number "number"),
  (.integer, swagger2Number "integer"),
  (.object, ⟨"object", [Step.plainBase, Step.properties]⟩),
  (.array, ⟨"array", [Step.plainBase, Step.rules [Rule.arrayLength], Step.items]⟩),
  (.string,
    ⟨"string", [Step.plainBase, Step.rules [Rule.stringLength, Rule.textForm, Rule.choices]]⟩),
  (.time, swagger2Formatted "time")]

/-! ## Conventions -/

/-- The converters of a profile. -/
def kinds : Profile → OrderedMap Kind Recipe
  | draft4 => draft4Kinds
  | draft4DecimalString => draft4Kinds ++ decimalStringKinds
  | swagger2 => swagger2Kinds

/-- The table of a profile. -/
def table (p : Profile) : Table := p.kinds.map fun (kind, c) => (kind, c.toConverter)

/-- The dialect of a profile's documents. -/
def dialect : Profile → Option String
  | draft4 | draft4DecimalString => some Keywords.draft4Dialect
  | swagger2 => none

/-- Whether objects of named types become definitions. -/
def extractsDefinitions : Profile → Bool
  | swagger2 => true
  | _ => false

end Profile

end SchemaTree
