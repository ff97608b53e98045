import SchemaTree.Generator
import Mathlib.Tactic.SplitIfs

/-!
# The own keywords of a node

The recipes of the profiles begin with steps that ask the conversion nothing. What they store are
the **own keywords** of a node; after them comes at most one step for the parts.

* `Step.Stores`: a step that asks nothing and stores only under certain keys; `Rule.Stores`;
* `Profile.recipe_steps`: the steps of every recipe;
* `Profile.ownKeywords`, with `ownKeywords_eq_cons`: they begin with the type;
* `Profile.toConverter_eq`: a recipe stores the own keywords and then turns to the parts.
-/

namespace SchemaTree

open OrderedMap

/-! ## Rules and the keys they store under -/

/-- The rule gives keywords with these keys only. -/
def Rule.Stores (allowed : List String) (r : Rule) : Prop :=
  ∀ n c k, r n c = some k → ∀ key ∈ keys k, key ∈ allowed

namespace Rule

theorem keys_boundEntry {α : Type} (key : String) (value : α → Json) (bound : Option α) :
    ∀ a ∈ keys (boundEntry key value bound), a = key := by
  cases bound <;> simp [boundEntry, keys]

theorem stores_length (maxKey minKey : String) : Stores [maxKey, minKey] (length maxKey minKey) := by
  intro n c k h a ha
  cases c with
  | length min max =>
    obtain rfl := Option.some.inj h
    rcases (mem_keys_extend _ _ a).1 ha with ha | ha
    · rw [keys_boundEntry _ _ _ a ha]
      simp
    · rw [keys_boundEntry _ _ _ a ha]
      simp
  | _ => cases h

theorem stores_range : Stores ["minimum", "maximum"] range := by
  intro n c k h a ha
  cases c with
  | range min max =>
    obtain rfl := Option.some.inj h
    simp only [keys, List.map_append, List.mem_append] at ha
    rcases ha with ha | ha
    · rw [keys_boundEntry _ _ _ a ha]
      simp
    · rw [keys_boundEntry _ _ _ a ha]
      simp
  | _ => cases h

theorem stores_textForm : Stores ["pattern", "format"] textForm := by
  intro n c k h a ha
  cases c <;> cases h <;> simp_all [keys]

theorem stores_choices : Stores ["enum"] choices := by
  intro n c k h a ha
  cases c <;> cases h
  simp_all [keys]

theorem stores_nullableChoices (nullValues : List Json) :
    Stores ["enum"] (nullableChoices nullValues) := by
  intro n c k h a ha
  cases c <;> cases h
  simp_all [keys]

theorem Stores.mono {as bs : List String} {r : Rule} (h : Stores as r) (hs : as ⊆ bs) :
    Stores bs r := fun n c k hk a ha => hs (h n c k hk a ha)

variable {allowed : List String} {rules : List Rule}

theorem keys_leafKeywords (h : ∀ r ∈ rules, Stores allowed r) (n : Node) (c : Constraint) :
    ∀ a ∈ keys (leafKeywords rules n c), a ∈ allowed := by
  intro a ha
  unfold leafKeywords firstKeywords? at ha
  cases hk : rules.findSome? fun rule => (rule n c).filter fun k => !k.isEmpty with
  | none => simp [hk, keys] at ha
  | some k =>
    rw [hk, Option.getD_some] at ha
    obtain ⟨r, hr, hrk⟩ := List.exists_of_findSome?_eq_some hk
    exact h r hr n c k (Option.eq_some_of_filter_eq_some hrk) a ha

theorem keys_collect (h : ∀ r ∈ rules, Stores allowed r) (n : Node) (c : Option Constraint) :
    ∀ a ∈ keys (collect rules n c), a ∈ allowed := by
  cases c with
  | none => simp [collect, keys]
  | some c =>
    have hfold : ∀ (cs : List Constraint) (acc : Keywords), (∀ a ∈ keys acc, a ∈ allowed) →
        ∀ a ∈ keys (cs.foldl (fun acc leaf => extend acc (leafKeywords rules n leaf)) acc),
          a ∈ allowed := by
      intro cs
      induction cs with
      | nil => exact fun acc hacc => hacc
      | cons c cs ih =>
        intro acc hacc
        refine ih _ fun a ha => ?_
        rcases (mem_keys_extend _ _ a).1 ha with ha | ha
        · exact hacc a ha
        · exact keys_leafKeywords h n c a ha
    exact hfold c.leaves [] (by simp [keys])

end Rule

/-! ## Steps that ask nothing -/

/-- The result of a query that asks nothing. -/
def Query.result? {α : Type} : Query α → Option α
  | .done a => some a
  | _ => none

/-- What a step that asks nothing makes of the keywords. -/
def Step.effect (step : Step) (n : Node) (k : Keywords) : Keywords := (step n k).result?.getD k

/-- The step asks nothing and stores entries with these keys only. -/
def Step.Stores (allowed : List String) (step : Step) : Prop :=
  ∃ entries : Node → Keywords → Keywords,
    (step = Step.ofFunction fun n k => extend k (entries n k)) ∧
      ∀ n k, ∀ key ∈ keys (entries n k), key ∈ allowed

namespace Step

theorem effect_ofFunction (f : Node → Keywords → Keywords) (n : Node) (k : Keywords) :
    (ofFunction f).effect n k = f n k := rfl

theorem Stores.eq_pure {allowed : List String} {step : Step} (h : Stores allowed step) (n : Node)
    (k : Keywords) : step n k = pure (step.effect n k) := by
  obtain ⟨entries, rfl, -⟩ := h
  rfl

theorem Stores.mono {as bs : List String} {step : Step} (h : Stores as step) (hs : as ⊆ bs) :
    Stores bs step := by
  obtain ⟨entries, rfl, hkeys⟩ := h
  exact ⟨entries, rfl, fun n k key hkey => hs (hkeys n k key hkey)⟩

theorem stores_nonEmpty : Stores ["minLength"] nonEmpty := by
  refine ⟨fun n _ => if n.isRequired then [("minLength", .number (.int 1))] else [], ?_, ?_⟩
  · rw [nonEmpty]
    congr 1
    funext n k
    by_cases h : n.isRequired = true <;> simp [h, extend]
  · intro n k
    by_cases h : n.isRequired = true <;> simp [h, keys]

theorem stores_format (f : String) : Stores ["format"] (format f) :=
  ⟨fun _ _ => [("format", .string f)], rfl, by simp [keys]⟩

theorem stores_decimal (scale : Option Nat) : Stores ["pattern"] (decimal scale) :=
  ⟨fun n _ => [("pattern", .string (decimalPattern (n.attributes.scale <|> scale)))], rfl,
    by simp [keys]⟩

theorem stores_rules {allowed : List String} {rs : List Rule}
    (h : ∀ r ∈ rs, Rule.Stores allowed r) : Stores allowed (rules rs) :=
  ⟨fun n _ => Rule.collect rs n n.attributes.constraint, rfl,
    fun n _ => Rule.keys_collect h n n.attributes.constraint⟩

end Step

/-! ## Recipes -/

/-- The steps of a recipe for the parts of a node. -/
def Kind.partSteps : Kind → List Step
  | object => [Step.properties]
  | array => [Step.items]
  | _ => []

/-- The steps of the recipe of a kind that are not for the parts. -/
def Recipe.ownSteps (c : Recipe) (κ : Kind) : List Step :=
  c.steps.take (c.steps.length - κ.partSteps.length)

namespace Profile

/-- The recipe of a kind. -/
def recipe? (p : Profile) (k : Kind) : Option Recipe := get? p.kinds k

/-- Whether a profile has a converter for a kind. -/
def converts (p : Profile) (k : Kind) : Bool := contains p.kinds k

/-- Whether null is allowed beside the type of a node that may be missing. -/
def allowsNull : Profile → Bool
  | swagger2 => false
  | _ => true

/-- The step that every recipe begins with. -/
def base (p : Profile) : Step := if p.allowsNull then Step.fullBase else Step.plainBase

/-- The keys that own keywords may have beside the type. -/
def detailKeys : List String :=
  ["title", "description", "default", "minLength", "maxLength", "minItems", "maxItems", "minimum",
    "maximum", "pattern", "format", "enum"]

variable {p : Profile} {κ : Kind} {c : Recipe} {n : Node}

theorem converts_eq (p : Profile) (κ : Kind) :
    p.converts κ = (decide (p = draft4DecimalString) || !κ.isDecimal) := by
  cases p <;> cases κ <;> decide

theorem recipe?_eq_none_iff (p : Profile) (κ : Kind) :
    p.recipe? κ = none ↔ p.converts κ = false := by
  rw [converts, contains, Option.isSome_eq_false_iff, Option.isNone_iff_eq_none, recipe?]

theorem get?_table (p : Profile) (κ : Kind) :
    get? p.table κ = (p.recipe? κ).map Recipe.toConverter := by
  rw [table, recipe?]
  induction p.kinds with
  | nil => rfl
  | cons e m ih =>
    rw [List.map_cons, get?, get?, ih]
    by_cases h : e.1 = κ <;> simp [h]

theorem recipe_steps (h : p.recipe? κ = some c) :
    c.steps = c.ownSteps κ ++ κ.partSteps ∧ c.ownSteps κ = p.base :: (c.ownSteps κ).tail ∧
      ∀ step ∈ (c.ownSteps κ).tail, Step.Stores detailKeys step := by
  have hnonEmpty : Step.Stores detailKeys Step.nonEmpty := Step.stores_nonEmpty.mono (by decide)
  have hformat (f : String) : Step.Stores detailKeys (Step.format f) :=
    (Step.stores_format f).mono (by decide)
  have hdecimal (s : Option Nat) : Step.Stores detailKeys (Step.decimal s) :=
    (Step.stores_decimal s).mono (by decide)
  have hstringLength : Rule.Stores detailKeys Rule.stringLength :=
    (Rule.stores_length _ _).mono (by decide)
  have harrayLength : Rule.Stores detailKeys Rule.arrayLength :=
    (Rule.stores_length _ _).mono (by decide)
  have hrange : Rule.Stores detailKeys Rule.range := Rule.stores_range.mono (by decide)
  have htextForm : Rule.Stores detailKeys Rule.textForm := Rule.stores_textForm.mono (by decide)
  have hchoices : Rule.Stores detailKeys Rule.choices := Rule.stores_choices.mono (by decide)
  have hnullable (vs : List Json) : Rule.Stores detailKeys (Rule.nullableChoices vs) :=
    (Rule.stores_nullableChoices vs).mono (by decide)
  cases p <;> cases κ <;> cases h <;> refine ⟨rfl, rfl, ?_⟩ <;>
    simp [Recipe.ownSteps, Kind.partSteps, draft4String, draft4Number, draft4Decimal,
      swagger2Formatted, swagger2Number, draft4StringRules, Rule.stringChoices,
      Rule.numberChoices, Step.stores_rules, *]

/-! ## Own keywords -/

/-- The name of the type of a kind. -/
def typeName (p : Profile) (κ : Kind) : String := ((p.recipe? κ).map Recipe.typeName).getD ""

/-- The type of a node: beside it stands null if the profile allows that and the node may be
missing. -/
def typeValue (p : Profile) (n : Node) : Json :=
  if p.allowsNull && !n.isRequired then .array [.string (p.typeName n.kind), .string "null"]
  else .string (p.typeName n.kind)

/-- The keywords of a node apart from its parts. -/
def ownKeywords (p : Profile) (n : Node) : Keywords :=
  match p.recipe? n.kind with
  | none => []
  | some c =>
    (c.ownSteps n.kind).foldl (fun k step => step.effect n k) [("type", .string c.typeName)]

theorem base_eq_pure (p : Profile) (n : Node) (k : Keywords) :
    p.base n k = pure (p.base.effect n k) := by
  cases p <;> rfl

theorem insertSome_cons (key : String) (hkey : key ∈ detailKeys) (value : Option Json) {t : Json}
    {k : Keywords} (hk : ∀ a ∈ keys k, a ∈ detailKeys) :
    ∃ k' : Keywords, Step.insertSome (("type", t) :: k) key value = ("type", t) :: k' ∧
      ∀ a ∈ keys k', a ∈ detailKeys := by
  cases value with
  | none => exact ⟨k, rfl, hk⟩
  | some v =>
    have hne : ¬ "type" = key := by
      rintro rfl
      exact absurd hkey (by decide)
    refine ⟨OrderedMap.insert k key v, ?_, fun a ha => ?_⟩
    · rw [Step.insertSome, OrderedMap.insert, if_neg hne]
    · rw [keys_insert] at ha
      split_ifs at ha
      · exact hk a ha
      · rcases List.mem_append.1 ha with ha | ha
        · exact hk a ha
        · rw [List.mem_singleton.1 ha]
          exact hkey

/-- The base step turns the name of the type into its value and adds details. -/
theorem effect_base (p : Profile) (n : Node) :
    ∃ details : Keywords,
      p.base.effect n [("type", .string (p.typeName n.kind))] = ("type", p.typeValue n) :: details ∧
        ∀ key ∈ keys details, key ∈ detailKeys := by
  have htype : (if p.allowsNull then Step.allowNull n [("type", .string (p.typeName n.kind))]
      else [("type", .string (p.typeName n.kind))]) = [("type", p.typeValue n)] := by
    cases p <;> cases h : n.isRequired <;>
      simp [allowsNull, typeValue, Step.allowNull, h, get?, OrderedMap.insert]
  have hannotate (k : Keywords) (hk : ∀ a ∈ keys k, a ∈ detailKeys) :
      ∃ k' : Keywords, Step.annotate n (("type", p.typeValue n) :: k) =
        ("type", p.typeValue n) :: k' ∧ ∀ a ∈ keys k', a ∈ detailKeys := by
    obtain ⟨k₁, h₁, hk₁⟩ := insertSome_cons "description" (by decide)
      (n.attributes.description.map .string) (t := p.typeValue n) hk
    rw [Step.annotate, h₁]
    exact insertSome_cons "default" (by decide) _ hk₁
  by_cases hp : p.allowsNull = true
  · rw [if_pos hp] at htype
    obtain ⟨k, hk, hkeys⟩ := insertSome_cons "title" (by decide)
      (n.attributes.title.map .string) (t := p.typeValue n) (k := []) (by simp [keys])
    rw [base, if_pos hp, Step.fullBase, Step.effect_ofFunction, htype, Step.addTitle, hk]
    exact hannotate k hkeys
  · rw [if_neg hp] at htype
    rw [base, if_neg hp, Step.plainBase, Step.effect_ofFunction, htype]
    exact hannotate [] (by simp [keys])

theorem effects_stores {steps : List Step} (h : ∀ step ∈ steps, Step.Stores detailKeys step)
    (n : Node) (t : Json) {k : Keywords} (hk : ∀ key ∈ keys k, key ∈ detailKeys) :
    ∃ k' : Keywords, steps.foldl (fun k step => step.effect n k) (("type", t) :: k) =
      ("type", t) :: k' ∧ ∀ key ∈ keys k', key ∈ detailKeys := by
  induction steps generalizing k with
  | nil => exact ⟨k, rfl, hk⟩
  | cons step steps ih =>
    obtain ⟨hstep, hsteps⟩ := List.forall_mem_cons.1 h
    obtain ⟨entries, rfl, hentries⟩ := hstep
    have htype : "type" ∉ keys (entries n (("type", t) :: k)) := fun hmem =>
      absurd (hentries _ _ _ hmem) (by decide)
    rw [List.foldl_cons, Step.effect_ofFunction, extend_cons_of_not_mem _ _ htype]
    refine ih hsteps fun key hkey => ?_
    rcases (mem_keys_extend _ _ key).1 hkey with hkey | hkey
    · exact hk key hkey
    · exact hentries _ _ key hkey

/-- **The own keywords begin with the type; all others are details.** -/
theorem ownKeywords_eq_cons (h : p.converts n.kind = true) :
    ∃ details : Keywords, p.ownKeywords n = ("type", p.typeValue n) :: details ∧
      ∀ key ∈ keys details, key ∈ detailKeys := by
  obtain ⟨c, hc⟩ := Option.isSome_iff_exists.1 h
  change p.recipe? n.kind = some c at hc
  obtain ⟨-, hown, hdetails⟩ := recipe_steps hc
  obtain ⟨k, hk, hkeys⟩ := effect_base p n
  have htype : c.typeName = p.typeName n.kind := by rw [typeName, hc, Option.map_some, Option.getD_some]
  rw [ownKeywords, hc]
  change ∃ details, (c.ownSteps n.kind).foldl _ _ = _ ∧ _
  rw [hown, List.foldl_cons, htype, hk]
  exact effects_stores hdetails n _ hkeys

theorem applySteps_append {steps : List Step}
    (h : ∀ step ∈ steps, ∀ k, step n k = pure (step.effect n k)) (k : Keywords)
    (rest : List Step) :
    Recipe.applySteps n k (steps ++ rest) =
      Recipe.applySteps n (steps.foldl (fun k step => step.effect n k) k) rest := by
  induction steps generalizing k with
  | nil => rfl
  | cons step steps ih =>
    obtain ⟨hstep, hsteps⟩ := List.forall_mem_cons.1 h
    rw [List.cons_append, Recipe.applySteps, hstep, pure_bind, ih hsteps, List.foldl_cons]

theorem toConverter_eq (h : p.recipe? n.kind = some c) :
    c.toConverter n = (Recipe.applySteps n (p.ownKeywords n) n.kind.partSteps >>= fun k =>
      pure (some k)) := by
  obtain ⟨hsteps, hown, hdetails⟩ := recipe_steps h
  have hpure : ∀ step ∈ c.ownSteps n.kind, ∀ k, step n k = pure (step.effect n k) := by
    rw [hown]
    exact List.forall_mem_cons.2 ⟨base_eq_pure p n, fun step hstep k =>
      (hdetails step hstep).eq_pure n k⟩
  rw [Recipe.toConverter, hsteps, applySteps_append hpure, ownKeywords, h]

end Profile

end SchemaTree
