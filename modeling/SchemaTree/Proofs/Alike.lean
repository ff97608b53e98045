import SchemaTree.Proofs.Dispatch
import SchemaTree.Proofs.OwnKeywords

/-!
# Nodes that are alike

The recipe of a kind does not look at all of a node: not at the constraints that mean nothing for the
kind, and only for decimals at the number of places. So nodes may differ and have the same own
keywords.

* `Kind.understands`: the constraints that mean something for a kind;
* `Node.Alike`: nodes that say the same, as far as it means something for their kind;
* `Rule.Respects`, `Step.Respects`: rules and steps that do the same with alike nodes;
* `Profile.respects_ownSteps`, **`Profile.ownKeywords_congr`**.
-/

namespace SchemaTree

open OrderedMap

/-! ## Kinds and constraints -/

namespace Kind

/-- Whether values of this kind are written as strings. -/
def isText (κ : Kind) : Bool := κ ∈ [string, date, dateTime, time, decimal, money]

/-- Whether values of this kind are written as numbers. -/
def isNumber (κ : Kind) : Bool := κ ∈ [number, integer]

/-- Whether a constraint that is no conjunction means something for values of this kind. -/
def understands (κ : Kind) : Constraint → Bool
  | .length .. => κ.isText || κ.isArray
  | .range .. => κ.isNumber
  | .regex _ | .email | .url => κ.isText
  | .oneOf _ => κ.isText || κ.isNumber
  | .all _ => false

end Kind

/-! ## Alike nodes -/

/-- The nodes say the same about themselves, as far as it means something for their kind. -/
structure Node.Alike (n m : Node) : Prop where
  kind : n.kind = m.kind
  required : n.isRequired = m.isRequired
  title : n.attributes.title = m.attributes.title
  description : n.attributes.description = m.attributes.description
  defaultValue : n.attributes.defaultValue = m.attributes.defaultValue
  scale : n.kind.isDecimal = true → n.attributes.scale = m.attributes.scale
  leaves : n.leaves.filter n.kind.understands = m.leaves.filter n.kind.understands

/-- The rule gives nothing for constraints that mean nothing for a kind, and only looks whether the
node may be missing. -/
structure Rule.Respects (κ : Kind) (r : Rule) : Prop where
  required : ∀ {n m : Node}, n.isRequired = m.isRequired → r n = r m
  leaves : ∀ n c, κ.understands c = false → r n c = none

/-- The step does the same with nodes of a kind that are alike. -/
def Step.Respects (κ : Kind) (step : Step) : Prop :=
  ∀ {n m : Node}, n.kind = κ → n.Alike m → step n = step m

/-! ## Rules and steps -/

namespace Rule

variable {κ : Kind} {rules : List Rule}

theorem respects_length (maxKey minKey : String) (h : (κ.isText || κ.isArray) = true) :
    Respects κ (length maxKey minKey) where
  required _ := by
    funext c
    cases c <;> rfl
  leaves n c hc := by
    cases c with
    | length min max => rw [Kind.understands, h] at hc; cases hc
    | _ => rfl

theorem respects_range (h : κ.isNumber = true) : Respects κ range where
  required _ := by
    funext c
    cases c <;> rfl
  leaves n c hc := by
    cases c with
    | range min max => rw [Kind.understands, h] at hc; cases hc
    | _ => rfl

theorem respects_textForm (h : κ.isText = true) : Respects κ textForm where
  required _ := by
    funext c
    cases c <;> rfl
  leaves n c hc := by
    cases c with
    | regex | email | url => rw [Kind.understands, h] at hc; cases hc
    | _ => rfl

theorem respects_choices (h : (κ.isText || κ.isNumber) = true) : Respects κ choices where
  required _ := by
    funext c
    cases c <;> rfl
  leaves n c hc := by
    cases c with
    | oneOf values => rw [Kind.understands, h] at hc; cases hc
    | _ => rfl

theorem respects_nullableChoices (nullValues : List Json) (h : (κ.isText || κ.isNumber) = true) :
    Respects κ (nullableChoices nullValues) where
  required hr := by
    funext c
    cases c <;> simp only [nullableChoices, hr]
  leaves n c hc := by
    cases c with
    | oneOf values => rw [Kind.understands, h] at hc; cases hc
    | _ => rfl

/-- Leaves that mean nothing for the kind of a node are of no account. -/
theorem collect_eq_filter (h : ∀ r ∈ rules, Respects κ r) (n : Node) (c : Option Constraint) :
    collect rules n c =
      (((c.toList.flatMap Constraint.leaves).filter κ.understands).map
        (leafKeywords rules n)).foldl extend [] := by
  have hnone : ∀ leaf, κ.understands leaf = false → leafKeywords rules n leaf = [] := by
    intro leaf hleaf
    have hfirst : firstKeywords? rules n leaf = none := by
      rw [firstKeywords?, List.findSome?_eq_none_iff]
      intro r hr
      rw [(h r hr).leaves n leaf hleaf, Option.filter_none]
    rw [leafKeywords, hfirst, Option.getD_none]
  rw [collect_eq_foldl, List.foldl_map, List.foldl_map, List.foldl_filter]
  congr 1
  funext acc leaf
  split_ifs with hleaf
  · rfl
  · rw [hnone leaf (by simpa using hleaf), extend_nil]

theorem firstKeywords?_congr (h : ∀ r ∈ rules, Respects κ r) {n m : Node}
    (hnm : n.isRequired = m.isRequired) (c : Constraint) :
    firstKeywords? rules n c = firstKeywords? rules m c := by
  induction rules with
  | nil => rfl
  | cons r rules ih =>
    obtain ⟨hr, hrules⟩ := List.forall_mem_cons.1 h
    have hrest := ih hrules
    rw [firstKeywords?, firstKeywords?] at hrest ⊢
    rw [List.findSome?_cons, List.findSome?_cons, hr.required hnm, hrest]

theorem collect_congr (h : ∀ r ∈ rules, Respects κ r) {n m : Node} (hκ : n.kind = κ)
    (hnm : n.Alike m) :
    collect rules n n.attributes.constraint = collect rules m m.attributes.constraint := by
  have hleaf : leafKeywords rules n = leafKeywords rules m := by
    funext c
    rw [leafKeywords, leafKeywords, firstKeywords?_congr h hnm.required]
  have hleaves := hnm.leaves
  rw [Node.leaves, Node.leaves, hκ] at hleaves
  rw [collect_eq_filter h, collect_eq_filter h, hleaves, hleaf]

end Rule

namespace Step

variable {κ : Kind}

theorem respects_plainBase : Respects κ plainBase := by
  intro n m _ h
  funext k
  simp only [plainBase, ofFunction, annotate, h.description, h.defaultValue]

theorem respects_fullBase : Respects κ fullBase := by
  intro n m _ h
  funext k
  simp only [fullBase, ofFunction, annotate, addTitle, allowNull, h.description, h.defaultValue,
    h.title, h.required]

theorem respects_nonEmpty : Respects κ nonEmpty := by
  intro n m _ h
  funext k
  simp only [nonEmpty, ofFunction, h.required]

theorem respects_format (f : String) : Respects κ (format f) := fun _ _ => rfl

theorem respects_decimal (hκ : κ.isDecimal = true) (scale : Option Nat) :
    Respects κ (decimal scale) := by
  intro n m hn h
  funext k
  have hscale := h.scale (by rw [hn, hκ])
  simp only [decimal, ofFunction, hscale]

theorem respects_rules {rs : List Rule} (h : ∀ r ∈ rs, Rule.Respects κ r) :
    Respects κ (rules rs) := by
  intro n m hκ hnm
  funext k
  simp only [rules, ofFunction, Rule.collect_congr h hκ hnm]

end Step

/-! ## Recipes -/

namespace Profile

variable {p : Profile} {κ : Kind} {c : Recipe}

theorem respects_ownSteps (h : p.recipe? κ = some c) :
    ∀ step ∈ c.ownSteps κ, Step.Respects κ step := by
  cases p <;> cases κ <;> cases h <;>
    simp [Recipe.ownSteps, Kind.partSteps, draft4String, draft4Number, draft4Decimal,
      swagger2Formatted, swagger2Number, draft4StringRules, Rule.stringLength, Rule.arrayLength,
      Rule.stringChoices, Rule.numberChoices, Step.respects_plainBase, Step.respects_fullBase,
      Step.respects_nonEmpty, Step.respects_format, Step.respects_decimal, Step.respects_rules,
      Rule.respects_length, Rule.respects_range, Rule.respects_textForm, Rule.respects_choices,
      Rule.respects_nullableChoices, Kind.isText, Kind.isNumber, Kind.isArray, Kind.isDecimal]

theorem ownKeywords_congr {n m : Node} (h : n.Alike m) : p.ownKeywords n = p.ownKeywords m := by
  rw [ownKeywords, ownKeywords, ← h.kind]
  cases hc : p.recipe? n.kind with
  | none => rfl
  | some c =>
    refine List.foldl_ext _ _ _ fun k step hstep => ?_
    rw [Step.effect, Step.effect, respects_ownSteps hc step hstep rfl h]

end Profile

end SchemaTree
