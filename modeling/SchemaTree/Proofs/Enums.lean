import SchemaTree.Proofs.Compositional
import SchemaTree.Proofs.LeafKeywords

/-!
# The values under `enum` in draft-04 documents

Draft-04 wants at least one value under `enum`, and no value twice. Where a node may be missing, the
null values of its kind are put behind its choices, whether they are among them or not. So a value
stands there twice only if the node may be missing and offers a null value itself.

* `Kind.nullValues`, `Node.offered`: the values under `enum`;
* `Profile.choices_of_ownKeywords`: they come from the last choices of the constraint;
* `Node.Offers`, with `offers_assemble`; `Node.ProperChoices`;
* **`Profile.enums_differ_without_nulls`**, and `Profile.salutation_repeats`.
-/

namespace SchemaTree

open OrderedMap

/-- The values that stand for a missing value of this kind. -/
def Kind.nullValues (κ : Kind) : List Json :=
  if κ.isText then [.string "", .null] else if κ.isNumber then [.null] else []

namespace Node

/-- The values that a node with these choices offers. -/
def offered (n : Node) (choices : List Json) : List Json :=
  if n.isRequired then choices else choices ++ n.kind.nullValues

/-- The values under `enum` are those that the node offers with the choices of the last leaf that has
any. There is one at least; they differ from each other if and only if the node has to be there or
does not have a null value of its kind as a choice. -/
def Offers (n : Node) (k : Keywords) : Prop :=
  ∀ v, get? k "enum" = some v → ∃ choices, n.lastOf? Constraint.choices? = some choices ∧
    v = .array (n.offered choices) ∧ n.offered choices ≠ [] ∧
      ((n.offered choices).Nodup ↔ n.isRequired = true ∨ ∀ w ∈ n.kind.nullValues, w ∉ choices)

/-- Wherever reachable nodes have choices, there is one at least and no two are the same. -/
def ProperChoices (root : Node) : Prop :=
  ∀ n ∈ root.postOrder, ∀ choices, .oneOf choices ∈ n.leaves → choices ≠ [] ∧ choices.Nodup

theorem mem_leaves_of_lastOf? {n : Node} {choices : List Json}
    (h : n.lastOf? Constraint.choices? = some choices) : .oneOf choices ∈ n.leaves := by
  obtain ⟨c, hc, hchoices⟩ := List.exists_of_findSome?_eq_some h
  have heq : c = .oneOf choices := by
    cases c <;> cases hchoices
    rfl
  rw [← heq]
  exact List.mem_reverse.1 hc

theorem nodup_nullValues (κ : Kind) : κ.nullValues.Nodup := by
  cases κ <;> decide

theorem nodup_offered_iff {n : Node} {choices : List Json} (h : choices.Nodup) :
    (n.offered choices).Nodup ↔ n.isRequired = true ∨ ∀ w ∈ n.kind.nullValues, w ∉ choices := by
  rw [offered]
  cases hn : n.isRequired with
  | true => simp [h]
  | false =>
    simp only [Bool.false_eq_true, if_false, false_or]
    rw [List.nodup_append]
    constructor
    · rintro ⟨-, -, hdisjoint⟩ w hw hmem
      exact hdisjoint w hmem w hw rfl
    · intro hnulls
      refine ⟨h, nodup_nullValues _, fun v hv w hw heq => ?_⟩
      exact hnulls w hw (heq ▸ hv)

theorem offered_ne_nil {n : Node} {choices : List Json} (h : choices ≠ []) :
    n.offered choices ≠ [] := by
  rw [offered]
  split
  · exact h
  · simp [h]

end Node

namespace Profile

variable {p : Profile} {n : Node}

theorem get?_enum_of_not_isLeaf (hp : p ≠ swagger2) (hn : n.kind.isLeaf = false) :
    get? (p.ownKeywords n) "enum" = none := by
  rcases n.object_or_array_or_leaf with hkind | hkind | hkind
  · have hrecipe : p.recipe? .object = some ⟨"object", [Step.fullBase, Step.properties]⟩ :=
      recipe?_of_draft4 hp rfl
    have hown : p.ownKeywords n = Step.fullBase.effect n [("type", .string "object")] := by
      rw [ownKeywords, hkind, hrecipe]
      rfl
    rw [hown]
    exact Step.get?_fullBase n "enum" "object"
  · have hrecipe : p.recipe? .array =
        some ⟨"array", [Step.fullBase, Step.rules [Rule.arrayLength], Step.items]⟩ :=
      recipe?_of_draft4 hp rfl
    have hown : p.ownKeywords n = (Step.rules [Rule.arrayLength]).effect n
        (Step.fullBase.effect n [("type", .string "array")]) := by
      rw [ownKeywords, hkind, hrecipe]
      rfl
    have hstores (c : Constraint) : get? (Rule.leafKeywords [Rule.arrayLength] n c) "enum" = none := by
      refine (get?_eq_none_iff _ _).2 fun hkey => ?_
      have hmem := Rule.keys_leafKeywords
        (List.forall_mem_singleton.2 (Rule.stores_length "maxItems" "minItems")) n c _ hkey
      exact absurd hmem (by decide)
    have hmaps : ∀ r ∈ [Rule.arrayLength], r.GivesMaps :=
      List.forall_mem_singleton.2 (Rule.givesMaps_length (by decide))
    rw [hown, Step.get?_rules _ _ _ hmaps]
    simp only [hstores, Node.lastOf?_none, Option.none_or]
    exact Step.get?_fullBase n "enum" "array"
  · rw [hkind] at hn
    cases hn

theorem choices_of_leafKeyword? (hn : n.kind.isLeaf = true) {v : Json}
    (h : n.leafKeyword? "enum" = some v) :
    ∃ choices, n.lastOf? Constraint.choices? = some choices ∧ v = .array (n.offered choices) := by
  have hmap (hv : (n.lastOf? Constraint.choices?).map (n.withNulls n.kind.nullValues) = some v) :
      ∃ choices, n.lastOf? Constraint.choices? = some choices ∧ v = .array (n.offered choices) := by
    obtain ⟨choices, hchoices, rfl⟩ := Option.map_eq_some_iff.1 hv
    exact ⟨choices, hchoices, rfl⟩
  unfold Node.leafKeyword? at h
  cases hkind : n.kind <;> rw [hkind] at h hmap hn
  case boolean => cases h
  case object | array => cases hn
  all_goals exact hmap h

theorem choices_of_ownKeywords (hp : p ≠ swagger2) {v : Json}
    (h : get? (p.ownKeywords n) "enum" = some v) :
    ∃ choices, n.lastOf? Constraint.choices? = some choices ∧ v = .array (n.offered choices) := by
  cases hn : n.kind.isLeaf with
  | false =>
    rw [get?_enum_of_not_isLeaf hp hn] at h
    cases h
  | true =>
    cases hc : p.converts n.kind with
    | false =>
      rw [ownKeywords, (recipe?_eq_none_iff p n.kind).2 hc] at h
      cases h
    | true =>
      rw [get?_ownKeywords_of_isLeaf hp hn hc] at h
      exact choices_of_leafKeyword? hn h

theorem offers_assemble (hp : p ≠ swagger2)
    (hn : ∀ choices, .oneOf choices ∈ n.leaves → choices ≠ [] ∧ choices.Nodup)
    (ks : List (Option Keywords)) : n.Offers (p.assemble n ks) := by
  intro v hv
  have hparts : get? (n.partKeywords ks) "enum" = none :=
    (get?_eq_none_iff _ _).2 (not_mem_keys_partKeywords (by decide))
  rw [assemble, get?_append, hparts, Option.or_none] at hv
  obtain ⟨choices, hchoices, rfl⟩ := choices_of_ownKeywords hp hv
  obtain ⟨hne, hnodup⟩ := hn choices (Node.mem_leaves_of_lastOf? hchoices)
  exact ⟨choices, hchoices, rfl, Node.offered_ne_nil hne, Node.nodup_offered_iff hnodup⟩

/-! ## Documents -/

variable {root : Node} {extracts : Bool} {dialect : Option String} {document : Json}

theorem offers_site (hp : p ≠ swagger2)
    (hn : ∀ choices, .oneOf choices ∈ n.leaves → choices ≠ [] ∧ choices.Nodup) :
    n.Offers (p.site n) := by
  cases hname : n.objectName? with
  | none =>
    rw [site_of_none hname, body_eq]
    exact offers_assemble hp hn _
  | some name =>
    rw [site_of_some hname]
    intro v hv
    cases hv

/-- **Values under `enum` differ where no null value is offered.** If all choices in a tree are
different from each other, so are the values under `enum` everywhere in its draft-04 document, except
for nodes that may be missing and have a null value of their kind as a choice. -/
theorem enums_differ_without_nulls (hp : p ≠ swagger2) (hroot : root.ProperChoices)
    (h : (p.generator extracts dialect).generate root = .ok document) :
    Sites root dialect document Node.Offers Node.Offers := by
  cases extracts with
  | true =>
    refine (sites_generate h).imp (fun n hn k hk => ?_) fun n hn _ _ k hk => ?_
    · rw [hk]
      exact offers_site hp (hroot n hn)
    · rw [hk, body_eq]
      exact offers_assemble hp (hroot n hn) _
  | false =>
    refine (sites_generate_inline h fun _ _ => False).imp (fun n hn k hk => ?_)
      fun _ _ _ _ _ hk => hk.elim
    rw [hk, inline_eq]
    exact offers_assemble hp (hroot n hn) _

/-- A title that may be missing, and may also be empty. -/
def salutation : Node :=
  ((Node.ofKind .string).withConstraint (.oneOf [.string "", .string "Dr."])).optional

/-- A grade that may be missing. -/
def grade : Node :=
  ((Node.ofKind .integer).withConstraint (.oneOf [.number (.int 1), .number (.int 2)])).optional

/-- An object of a named type with a title and a grade. -/
def student : Node :=
  (Node.ofKind .object).withTypeName "Student" |>.field "title" salutation |>.field "grade" grade

theorem properChoices_student : student.ProperChoices := by
  have hnodes : student.postOrder = [salutation.named "title", grade.named "grade", student] := rfl
  intro n hn choices hmem
  rw [hnodes] at hn
  simp only [List.mem_cons, List.not_mem_nil, or_false] at hn
  rcases hn with rfl | rfl | rfl
  · obtain ⟨rfl⟩ := List.mem_singleton.1 hmem
    decide
  · obtain ⟨rfl⟩ := List.mem_singleton.1 hmem
    decide
  · cases hmem

/-- What a student's title and grade offer, in a document with definitions. -/
theorem student_offers :
    student.ProperChoices ∧ ∃ document,
      (draft4.generator true none).generate student = .ok document ∧
        Sites student none document Node.Offers Node.Offers ∧
        ¬ ((salutation.offered [.string "", .string "Dr."]).Nodup) ∧
        (grade.offered [.number (.int 1), .number (.int 2)]).Nodup := by
  obtain ⟨document, h⟩ : ∃ document,
      (draft4.generator true none).generate student = .ok document := ⟨_, rfl⟩
  exact ⟨properChoices_student, document, h,
    enums_differ_without_nulls (by decide) properChoices_student h, by decide, by decide⟩

/-- The empty text is a choice and stands for a missing title, so it comes twice under `enum`. -/
theorem salutation_repeats :
    ¬ ∀ (root : Node) (document : Json), root.ProperChoices →
      (draft4.generator false none).generate root = .ok document →
        ∀ e ∈ document.positions [], ∀ values, e.2.member? "enum" = some (.array values) →
          values ≠ [] ∧ values.Nodup := by
  intro hall
  have hproper : salutation.ProperChoices := by
    intro n hn choices hmem
    obtain rfl := List.mem_singleton.1 hn
    obtain ⟨rfl⟩ := List.mem_singleton.1 hmem
    decide
  obtain ⟨-, hnodup⟩ := hall salutation _ hproper rfl ([], _) List.mem_cons_self
    [.string "", .string "Dr.", .string "", .null] rfl
  exact absurd hnodup (by decide)

end Profile

end SchemaTree
