import SchemaTree.Proofs.Alike
import SchemaTree.Proofs.Resolution

/-!
# Keywords of leaves

Each draft-04 keyword of a leaf is decided by itself. The last leaf of the constraint that says
anything about it has the word, whatever other leaves say about other keywords; where none does, the
steps before have it. Only a fixed format comes after the constraint.

* `Constraint.minLength?`, `maxLength?`, `pattern?`, `format?`, `minimum?`, `maximum?`, `choices?`;
* `Node.lastOf?`: the word of the last leaf, with `Rule.get?_collect`;
* `Node.leafKeyword?`: what stands under a key;
* `Profile.get?_ownKeywords_of_isLeaf`, `Profile.nodup_keys_ownKeywords`;
* **`Profile.leaf_keywords_are_exact`**.
-/

namespace SchemaTree

open OrderedMap

/-! ## What constraints say -/

namespace Constraint

/-- The least length that a constraint sets. -/
def minLength? : Constraint → Option Nat
  | .length min _ => min
  | _ => none

/-- The greatest length that a constraint sets. -/
def maxLength? : Constraint → Option Nat
  | .length _ max => max
  | _ => none

/-- The text of the pattern that a constraint asks for. -/
def pattern? : Constraint → Option String
  | .regex p => some p.text
  | _ => none

/-- The name of the format that a constraint asks for. -/
def format? : Constraint → Option String
  | .email => some "email"
  | .url => some "uri"
  | _ => none

/-- The least number that a constraint allows. -/
def minimum? : Constraint → Option Number
  | .range min _ => min
  | _ => none

/-- The greatest number that a constraint allows. -/
def maximum? : Constraint → Option Number
  | .range _ max => max
  | _ => none

/-- The choices that a constraint leaves. -/
def choices? : Constraint → Option (List Json)
  | .oneOf values => some values
  | _ => none

end Constraint

namespace Kind

/-- The format that all values of a kind have. -/
def fixedFormat? : Kind → Option String
  | date => some "date"
  | dateTime => some "date-time"
  | time => some "time"
  | _ => none

end Kind

namespace Node

variable (n : Node)

/-- What the last leaf of the constraint says that says anything. -/
def lastOf? {α : Type} (f : Constraint → Option α) : Option α := n.leaves.reverse.findSome? f

theorem lastOf?_map {α β : Type} (f : Constraint → Option α) (g : α → β) :
    (n.lastOf? fun c => (f c).map g) = (n.lastOf? f).map g :=
  List.map_findSome?.symm

theorem lastOf?_none {α : Type} : (n.lastOf? fun _ => (none : Option α)) = none := by
  simp [lastOf?]

/-- The pattern of decimals; an amount of money has two places unless the node says otherwise. -/
def decimalPattern? : Option String :=
  match n.kind with
  | .decimal => some (Step.decimalPattern n.attributes.scale)
  | .money => some (Step.decimalPattern (n.attributes.scale.or (some 2)))
  | _ => none

/-- The choices, and behind them the given values if the node may be missing. -/
def withNulls (nullValues values : List Json) : Json :=
  .array (if n.isRequired then values else values ++ nullValues)

/-- The name of a type, and null beside it if the node may be missing. -/
def nullable (type : String) : Json :=
  if n.isRequired then .string type else .array [.string type, .string "null"]

/-- What stands under a key in the draft-04 schema of a node of a type, whatever its constraint. -/
def baseKeyword? (type : String) : String → Option Json
  | "type" => some (n.nullable type)
  | "title" => n.attributes.title.map .string
  | "description" => n.attributes.description.map .string
  | "default" => n.attributes.defaultValue
  | _ => none

/-- What stands under a key in the draft-04 schema of a text. -/
def textKeyword? : String → Option Json
  | "minLength" =>
    ((n.lastOf? Constraint.minLength?).or (if n.isRequired then some 1 else none)).map fun (k : Nat) =>
      .number (.int k)
  | "maxLength" => (n.lastOf? Constraint.maxLength?).map fun (k : Nat) => .number (.int k)
  | "pattern" => ((n.lastOf? Constraint.pattern?).or n.decimalPattern?).map .string
  | "format" => (n.kind.fixedFormat?.or (n.lastOf? Constraint.format?)).map .string
  | "enum" => (n.lastOf? Constraint.choices?).map (n.withNulls [.string "", .null])
  | key => n.baseKeyword? "string" key

/-- What stands under a key in the draft-04 schema of a number. -/
def numberKeyword? (type : String) : String → Option Json
  | "minimum" => (n.lastOf? Constraint.minimum?).map .number
  | "maximum" => (n.lastOf? Constraint.maximum?).map .number
  | "enum" => (n.lastOf? Constraint.choices?).map (n.withNulls [.null])
  | key => n.baseKeyword? type key

/-- What stands under a key in the draft-04 schema of a leaf. -/
def leafKeyword? (key : String) : Option Json :=
  match n.kind with
  | .boolean => n.baseKeyword? "boolean" key
  | .number => n.numberKeyword? "number" key
  | .integer => n.numberKeyword? "integer" key
  | _ => n.textKeyword? key

end Node

/-! ## Rules -/

namespace Rule

theorem givesMaps_range : range.GivesMaps := by
  intro n c k hk
  cases c with
  | range min max =>
    obtain rfl := Option.some.inj hk
    cases min <;> cases max <;> simp [boundEntry, keys]
  | _ => cases hk

theorem get?_textRules (n : Node) (c : Constraint) (key : String) :
    get? (leafKeywords Profile.draft4StringRules n c) key =
      match key with
      | "minLength" => c.minLength?.map fun (k : Nat) => .number (.int k)
      | "maxLength" => c.maxLength?.map fun (k : Nat) => .number (.int k)
      | "pattern" => c.pattern?.map .string
      | "format" => c.format?.map .string
      | "enum" => c.choices?.map (n.withNulls [.string "", .null])
      | _ => none := by
  split
  case h_6 hmin hmax hpattern hformat henum =>
    refine (get?_eq_none_iff _ _).2 fun hkey => ?_
    have hstores : ∀ r ∈ Profile.draft4StringRules,
        Stores ["minLength", "maxLength", "pattern", "format", "enum"] r := by
      simp only [Profile.draft4StringRules, List.forall_mem_cons]
      exact ⟨(stores_length _ _).mono (by decide), stores_textForm.mono (by decide),
        (stores_nullableChoices _).mono (by decide), by simp⟩
    have hmem := keys_leafKeywords hstores n c key hkey
    simp_all
  all_goals
    cases c with
    | length min max => cases min <;> cases max <;> rfl
    | _ => rfl

theorem get?_numberRules (n : Node) (c : Constraint) (key : String) :
    get? (leafKeywords [range, numberChoices] n c) key =
      match key with
      | "minimum" => c.minimum?.map .number
      | "maximum" => c.maximum?.map .number
      | "enum" => c.choices?.map (n.withNulls [.null])
      | _ => none := by
  split
  case h_4 hmin hmax henum =>
    refine (get?_eq_none_iff _ _).2 fun hkey => ?_
    have hstores : ∀ r ∈ [range, numberChoices], Stores ["minimum", "maximum", "enum"] r := by
      simp only [List.forall_mem_cons]
      exact ⟨stores_range.mono (by decide), (stores_nullableChoices _).mono (by decide), by simp⟩
    have hmem := keys_leafKeywords hstores n c key hkey
    simp_all
  all_goals
    cases c with
    | range min max => cases min <;> cases max <;> rfl
    | _ => rfl

/-- What is collected under a key is the word of the last leaf. -/
theorem get?_collect {rules : List Rule} (h : ∀ r ∈ rules, r.GivesMaps) (n : Node) (key : String) :
    get? (collect rules n n.attributes.constraint) key =
      n.lastOf? fun c => get? (leafKeywords rules n c) key := by
  have hmerges := merges_foldl (List.forall_mem_map.2 fun c (_ : c ∈ n.leaves) =>
    nodup_leafKeywords h n c)
  rw [collect_eq_foldl, ← Node.leaves, hmerges.value, Node.lastOf?, ← List.map_reverse,
    List.findSome?_map]
  rfl

end Rule

/-! ## Steps -/

namespace Step

variable (n : Node) (k : Keywords) (key : String)

theorem get?_insertSome (key' : String) (value : Option Json) :
    get? (insertSome k key' value) key =
      if key = key' then value.or (get? k key) else get? k key := by
  cases value with
  | none => simp [insertSome]
  | some v => simp only [insertSome, get?_insert, eq_comm, Option.some_or]

theorem get?_fullBase (type : String) :
    get? (fullBase.effect n [("type", .string type)]) key = n.baseKeyword? type key := by
  have htype : allowNull n [("type", .string type)] = [("type", n.nullable type)] := by
    cases h : n.isRequired <;> simp [allowNull, Node.nullable, h, get?, OrderedMap.insert]
  have hsingle : get? [("type", n.nullable type)] key =
      if key = "type" then some (n.nullable type) else none := by
    simp only [get?, eq_comm]
  rw [fullBase, effect_ofFunction, htype, annotate, addTitle]
  unfold Node.baseKeyword?
  split <;> simp_all [get?_insertSome]

theorem get?_nonEmpty :
    get? (nonEmpty.effect n k) key =
      if key = "minLength" ∧ n.isRequired then some (.number (.int 1)) else get? k key := by
  rw [nonEmpty, effect_ofFunction]
  by_cases hn : n.isRequired = true
  · simp [hn, get?_insert, eq_comm]
  · simp [hn]

theorem get?_decimal (defaultScale : Option Nat) :
    get? ((decimal defaultScale).effect n k) key =
      if key = "pattern" then
        some (.string (decimalPattern (n.attributes.scale.or defaultScale)))
      else get? k key := by
  rw [decimal, effect_ofFunction, get?_insert]
  simp only [eq_comm, Option.orElse_eq_orElse, Option.orElse_eq_or]

theorem get?_format (name : String) :
    get? ((format name).effect n k) key =
      if key = "format" then some (.string name) else get? k key := by
  rw [format, effect_ofFunction, get?_insert]
  simp only [eq_comm]

theorem get?_rules {rs : List Rule} (h : ∀ r ∈ rs, r.GivesMaps) :
    get? ((rules rs).effect n k) key =
      (n.lastOf? fun c => get? (Rule.leafKeywords rs n c) key).or (get? k key) := by
  rw [rules, effect_ofFunction, get?_extend, get?_reverse (Rule.nodup_keys_collect _ _ _),
    Rule.get?_collect h]

end Step

/-! ## Recipes -/

namespace Kind

/-- The steps for the pattern of decimals. -/
def decimalSteps : Kind → List Step
  | decimal => [Step.decimal none]
  | money => [Step.decimal (some 2)]
  | _ => []

/-- The steps for the format of all values of a kind. -/
def formatSteps (κ : Kind) : List Step := κ.fixedFormat?.toList.map Step.format

end Kind

namespace Profile

/-- The keywords after some steps. -/
def applied (n : Node) (k : Keywords) (steps : List Step) : Keywords :=
  steps.foldl (fun k step => step.effect n k) k

variable {p : Profile} {n : Node}

theorem get?_decimalSteps (n : Node) (k : Keywords) (key : String) :
    get? (applied n k n.kind.decimalSteps) key =
      if key = "pattern" then (n.decimalPattern?.map .string).or (get? k key) else get? k key := by
  unfold applied Kind.decimalSteps Node.decimalPattern?
  cases n.kind <;> simp [Step.get?_decimal]

theorem get?_formatSteps (n : Node) (k : Keywords) (key : String) :
    get? (applied n k n.kind.formatSteps) key =
      if key = "format" then (n.kind.fixedFormat?.map .string).or (get? k key) else get? k key := by
  unfold applied Kind.formatSteps
  cases n.kind.fixedFormat? <;> simp [Step.get?_format]

theorem givesMaps_draft4StringRules : ∀ r ∈ draft4StringRules, r.GivesMaps := by
  simp only [draft4StringRules, List.forall_mem_cons]
  exact ⟨Rule.givesMaps_length (by decide), Rule.givesMaps_textForm,
    Rule.givesMaps_nullableChoices _, by simp⟩

theorem givesMaps_numberRules : ∀ r ∈ [Rule.range, Rule.numberChoices], r.GivesMaps := by
  simp only [List.forall_mem_cons]
  exact ⟨Rule.givesMaps_range, Rule.givesMaps_nullableChoices _, by simp⟩

theorem recipe?_of_draft4 {κ : Kind} {c : Recipe} (hp : p ≠ swagger2)
    (h : draft4.recipe? κ = some c) : p.recipe? κ = some c := by
  cases p with
  | swagger2 => exact absurd rfl hp
  | draft4 => exact h
  | draft4DecimalString =>
    change get? (draft4Kinds ++ decimalStringKinds) κ = _
    rw [get?_append, show get? draft4Kinds κ = some c from h, Option.some_or]

theorem recipe?_of_isText {κ : Kind} (hp : p ≠ swagger2) (hκ : κ.isText = true)
    (hc : p.converts κ = true) :
    p.recipe? κ = some ⟨"string", Step.fullBase :: Step.nonEmpty ::
      (κ.decimalSteps ++ Step.rules draft4StringRules :: κ.formatSteps)⟩ := by
  cases κ with
  | string | date | dateTime | time => exact recipe?_of_draft4 hp rfl
  | decimal | money =>
    cases p with
    | draft4 | swagger2 => cases hc
    | draft4DecimalString => rfl
  | _ => cases hκ

theorem ownKeywords_of_isLeaf {c : Recipe} (hn : n.kind.isLeaf = true)
    (hc : p.recipe? n.kind = some c) :
    p.ownKeywords n = applied n [("type", .string c.typeName)] c.steps := by
  have hparts : n.kind.partSteps = [] := by
    unfold Kind.partSteps
    cases hκ : n.kind <;> simp_all [Kind.isLeaf, Kind.isObject, Kind.isArray]
  have hsteps : c.ownSteps n.kind = c.steps := by
    rw [Recipe.ownSteps, hparts, List.length_nil, Nat.sub_zero, List.take_length]
  rw [ownKeywords, hc]
  simp only [hsteps, applied]

theorem get?_ownKeywords_of_isText (hp : p ≠ swagger2) (hn : n.kind.isText = true)
    (hc : p.converts n.kind = true) (key : String) :
    get? (p.ownKeywords n) key = n.textKeyword? key := by
  have hleaf : n.kind.isLeaf = true := by
    cases hκ : n.kind <;> simp_all [Kind.isText, Kind.isLeaf, Kind.isObject, Kind.isArray]
  have hsteps : p.ownKeywords n = applied n ((Step.rules draft4StringRules).effect n (applied n
      (Step.nonEmpty.effect n (Step.fullBase.effect n [("type", .string "string")]))
      n.kind.decimalSteps)) n.kind.formatSteps := by
    rw [ownKeywords_of_isLeaf hleaf (recipe?_of_isText hp hn hc)]
    simp only [applied, List.foldl_cons, List.foldl_append]
  have hget := congrArg (get? · key) hsteps
  simp only [get?_formatSteps, Step.get?_rules _ _ _ givesMaps_draft4StringRules,
    get?_decimalSteps, Step.get?_nonEmpty, Step.get?_fullBase, Rule.get?_textRules] at hget
  unfold Node.textKeyword?
  split <;> rw [hget]
  case h_6 hmin _ hpattern hformat _ =>
    rw [if_neg hformat, if_neg hpattern, if_neg (fun h => hmin h.1)]
    simp only [Node.lastOf?_none, Option.none_or]
  all_goals simp [Node.lastOf?_map, Option.map_or, Node.baseKeyword?]

theorem get?_ownKeywords_of_number {type : String} (hn : n.kind.isLeaf = true)
    (hc : p.recipe? n.kind = some (draft4Number type)) (key : String) :
    get? (p.ownKeywords n) key = n.numberKeyword? type key := by
  have hsteps : p.ownKeywords n = (Step.rules [Rule.range, Rule.numberChoices]).effect n
      (Step.fullBase.effect n [("type", .string type)]) := ownKeywords_of_isLeaf hn hc
  rw [hsteps, Step.get?_rules _ _ _ givesMaps_numberRules, Step.get?_fullBase]
  simp only [Rule.get?_numberRules]
  unfold Node.numberKeyword?
  split <;> simp_all [Node.lastOf?_map, Node.lastOf?_none, Node.baseKeyword?]

/-- **The own keywords of a leaf**, key by key. -/
theorem get?_ownKeywords_of_isLeaf (hp : p ≠ swagger2) (hn : n.kind.isLeaf = true)
    (hc : p.converts n.kind = true) (key : String) :
    get? (p.ownKeywords n) key = n.leafKeyword? key := by
  have hrecipe {κ : Kind} {c : Recipe} (hκ : n.kind = κ) (h : draft4.recipe? κ = some c) :
      p.recipe? n.kind = some c := by
    rw [hκ]
    exact recipe?_of_draft4 hp h
  unfold Node.leafKeyword?
  cases hκ : n.kind with
  | boolean =>
    rw [ownKeywords_of_isLeaf hn (hrecipe hκ rfl)]
    exact Step.get?_fullBase n key "boolean"
  | number => exact get?_ownKeywords_of_number hn (hrecipe hκ rfl) key
  | integer => exact get?_ownKeywords_of_number hn (hrecipe hκ rfl) key
  | object | array => rw [hκ] at hn; cases hn
  | _ => exact get?_ownKeywords_of_isText hp (by rw [hκ]; rfl) hc key

theorem nodup_keys_base (p : Profile) {k : Keywords} (hk : (keys k).Nodup) :
    (keys (p.base.effect n k)).Nodup := by
  have hinsert {k : Keywords} (hk : (keys k).Nodup) (key : String) (value : Option Json) :
      (keys (Step.insertSome k key value)).Nodup := by
    cases value with
    | none => exact hk
    | some v => exact nodup_keys_insert hk key v
  have hannotate {k : Keywords} (hk : (keys k).Nodup) : (keys (Step.annotate n k)).Nodup :=
    hinsert (hinsert hk _ _) _ _
  have hallow : (keys (Step.allowNull n k)).Nodup := by
    unfold Step.allowNull
    split
    · exact hk
    · split
      · exact hk
      · exact nodup_keys_insert hk _ _
  unfold base
  split
  · exact hannotate (hinsert hallow _ _)
  · exact hannotate hk

theorem nodup_keys_applied {steps : List Step} (h : ∀ step ∈ steps, Step.Stores detailKeys step)
    {k : Keywords} (hk : (keys k).Nodup) : (keys (applied n k steps)).Nodup := by
  induction steps generalizing k with
  | nil => exact hk
  | cons step steps ih =>
    obtain ⟨⟨entries, rfl, -⟩, hlater⟩ := List.forall_mem_cons.1 h
    exact ih hlater (nodup_keys_extend hk _)

theorem nodup_keys_ownKeywords (p : Profile) (n : Node) : (keys (p.ownKeywords n)).Nodup := by
  rw [ownKeywords]
  cases hc : p.recipe? n.kind with
  | none => exact List.nodup_nil
  | some c =>
    obtain ⟨-, hown, hdetails⟩ := recipe_steps hc
    simp only
    rw [hown]
    exact nodup_keys_applied hdetails (nodup_keys_base p (List.nodup_singleton _))

/-! ## Fragments -/

theorem resolve_of_isLeaf (hn : n.kind.isLeaf = true) (hc : p.converts n.kind = true)
    (extracts : Bool) (dialect : Option String) (s : Progress) :
    (p.generator extracts dialect).resolve n s = (.ok (some (p.ownKeywords n)), s) := by
  have hobject : n.kind.isObject = false := by
    rw [Kind.isLeaf, Bool.not_eq_true', Bool.or_eq_false_iff] at hn
    exact hn.1
  have harray : n.kind.isArray = false := by
    rw [Kind.isLeaf, Bool.not_eq_true', Bool.or_eq_false_iff] at hn
    exact hn.2
  have hshared : (p.generator extracts dialect).sharedName? n = none := by
    rw [Generator.sharedName?, hobject, Bool.and_false]
    rfl
  have hparts : n.parts = [] := by
    rw [Node.parts, hobject, harray]
    rfl
  have hassemble : p.assemble n [] = p.ownKeywords n := by
    rw [assemble, Node.partKeywords, hobject, harray]
    exact List.append_nil _
  rw [Generator.resolve_eq, Generator.resolveNode, hshared]
  change (p.generator extracts dialect).convert n s = _
  rw [convert_eq extracts dialect hc, hparts, Generator.resolveParts]
  simp only [Prod.map, Except.map, hassemble, id]

/-- **The keywords of a draft-04 leaf.** Resolving it gives a schema without a repeated key, and what
stands under each key is said by the last leaf of the constraint that says anything about it, by the
attributes and by the kind. -/
theorem leaf_keywords_are_exact {p : Profile} {n : Node} (hp : p ≠ swagger2)
    (hn : n.kind.isLeaf = true) (hc : p.converts n.kind = true) (extracts : Bool)
    (dialect : Option String) (s : Progress) :
    ∃ k : Keywords, (p.generator extracts dialect).resolve n s = (.ok (some k), s) ∧
      (keys k).Nodup ∧ ∀ key, get? k key = n.leafKeyword? key :=
  ⟨p.ownKeywords n, resolve_of_isLeaf hn hc extracts dialect s, nodup_keys_ownKeywords p n,
    get?_ownKeywords_of_isLeaf hp hn hc⟩

/-- The constraints of an amount, nested as a conjunction in a conjunction. -/
def amountConstraint : Constraint :=
  .all [.regex ⟨"[0-9]", by decide +kernel⟩, .length (some 2) none,
    .all [.url, .length none (some 9), .oneOf [.string "0.50"]], .length (some 3) none,
    .oneOf [.string "1.00", .string ""], .email]

/-- An amount that may be missing. -/
def amount : Node :=
  (((Node.ofKind .money).withDefault .null).withConstraint amountConstraint).optional

/-- The least and the greatest length come from different leaves, and the pattern is not that of
money. -/
theorem amount_keywords :
    draft4DecimalString ≠ swagger2 ∧ amount.kind.isLeaf = true ∧
      draft4DecimalString.converts amount.kind = true ∧
      ∃ k : Keywords, (draft4DecimalString.generator false none).resolve amount {} = (.ok (some k), {}) ∧
        get? k "type" = some (.array [.string "string", .string "null"]) ∧
        get? k "default" = some .null ∧ get? k "minLength" = some (.number (.int 3)) ∧
        get? k "maxLength" = some (.number (.int 9)) ∧ get? k "pattern" = some (.string "[0-9]") ∧
        get? k "format" = some (.string "email") ∧
        get? k "enum" = some (.array [.string "1.00", .string "", .string "", .null]) ∧
        get? k "title" = none := by
  have hprofile : draft4DecimalString ≠ swagger2 := by decide
  obtain ⟨k, hresolve, -, hkeywords⟩ := leaf_keywords_are_exact (n := amount) hprofile rfl rfl
    false none {}
  refine ⟨hprofile, rfl, rfl, k, hresolve, ?_⟩
  simp only [hkeywords]
  exact ⟨rfl, rfl, rfl, rfl, rfl, rfl, rfl, rfl⟩

end Profile

end SchemaTree
