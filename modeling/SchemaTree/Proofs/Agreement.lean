import SchemaTree.Proofs.Compositional
import SchemaTree.Proofs.Failure
import SchemaTree.Proofs.LeafKeywords
import Mathlib.Data.List.Perm.Lattice

/-!
# Where the profiles agree

The tables of draft-04 and of Swagger 2 were written apart. Where everything has to be there,
nothing has a title and every string has a least length of its own, they give the same documents:
what draft-04 puts in for required strings is overwritten, and only leaves its key in another place.

* `Json.Reorders`: values that are equal up to the order of members;
* `Json.Congruence`, with `Congruence.members`: relations that go from members to objects;
* `Profile.Written`, **`Profile.related_written`**: profiles whose own keywords are related write
  related keywords;
* `Node.Common`: the nodes for which both profiles have the same rules; `perm_ownKeywords`,
  `ownKeywords_eq`;
* **`Profile.draft4_agrees_with_swagger2`**.
-/

namespace SchemaTree

open OrderedMap

namespace Json

/-! ## Reordered members -/

/-- The values are equal up to the order of the members of objects, in any depth. -/
inductive Reorders : Json → Json → Prop
  | refl (v : Json) : Reorders v v
  | trans {u v w : Json} : Reorders u v → Reorders v w → Reorders u w
  | permuted {k k' : List (String × Json)} : k.Perm k' → Reorders (.object k) (.object k')
  | member {v w : Json} (k k' : List (String × Json)) (key : String) : Reorders v w →
    Reorders (.object (k ++ (key, v) :: k')) (.object (k ++ (key, w) :: k'))
  | element {v w : Json} (vs vs' : List Json) : Reorders v w →
    Reorders (.array (vs ++ v :: vs')) (.array (vs ++ w :: vs'))

/-- A relation that goes from the value of a member to the object. -/
structure Congruence (R : Json → Json → Prop) : Prop where
  refl : ∀ v, R v v
  trans : ∀ {u v w}, R u v → R v w → R u w
  member : ∀ {v w} (k k' : List (String × Json)) (key : String), R v w →
    R (.object (k ++ (key, v) :: k')) (.object (k ++ (key, w) :: k'))

theorem congruence_reorders : Congruence Reorders := ⟨.refl, .trans, .member⟩

theorem congruence_eq : Congruence (· = ·) :=
  ⟨fun _ => rfl, Eq.trans, fun _ _ _ h => by rw [h]⟩

/-- Members with the same keys, in the same order, and related values. -/
abbrev RelatedMembers (R : Json → Json → Prop) :
    List (String × Json) → List (String × Json) → Prop :=
  List.Forall₂ fun a b => a.1 = b.1 ∧ R a.2 b.2

variable {R : Json → Json → Prop}

/-- Related members make related objects: one member is replaced after the other. -/
theorem Congruence.members (hR : Congruence R) {k k' : List (String × Json)}
    (h : RelatedMembers R k k') (before after : List (String × Json)) :
    R (.object (before ++ k ++ after)) (.object (before ++ k' ++ after)) := by
  induction h generalizing before with
  | nil => exact hR.refl _
  | @cons a b k k' hab _ ih =>
    obtain ⟨key, v⟩ := a
    obtain ⟨_, w⟩ := b
    obtain ⟨rfl, hvw⟩ := hab
    have hfirst := hR.member before (k ++ after) key hvw
    have hrest := ih (before ++ [(key, w)])
    simp only [List.append_assoc, List.cons_append, List.nil_append] at hfirst hrest ⊢
    exact hR.trans hfirst hrest

theorem relatedMembers_insert {m m' : OrderedMap String Json} (h : RelatedMembers R m m')
    (key : String) {v w : Json} (hvw : R v w) :
    RelatedMembers R (insert m key v) (insert m' key w) := by
  induction h with
  | nil => exact .cons ⟨rfl, hvw⟩ .nil
  | @cons a b m m' hab hm ih =>
    obtain ⟨_, _⟩ := a
    obtain ⟨_, _⟩ := b
    obtain ⟨rfl, hvalue⟩ := hab
    rw [OrderedMap.insert, OrderedMap.insert]
    split_ifs
    · exact .cons ⟨rfl, hvw⟩ hm
    · exact .cons ⟨rfl, hvalue⟩ ih

theorem relatedMembers_extend {m m' k k' : OrderedMap String Json} (hm : RelatedMembers R m m')
    (hk : RelatedMembers R k k') : RelatedMembers R (extend m k) (extend m' k') := by
  induction hk generalizing m m' with
  | nil => exact hm
  | @cons a b k k' hab _ ih =>
    obtain ⟨_, _⟩ := a
    obtain ⟨_, _⟩ := b
    obtain ⟨rfl, hvalue⟩ := hab
    exact ih (relatedMembers_insert hm _ hvalue)

end Json

theorem OrderedMap.perm_of_get? {κ α : Type} [DecidableEq κ] {m n : OrderedMap κ α}
    (hm : (keys m).Nodup) (hn : (keys n).Nodup) (h : ∀ k, get? m k = get? n k) : m.Perm n := by
  have hmem {m : OrderedMap κ α} (hm : (keys m).Nodup) (e : κ × α) :
      e ∈ m ↔ get? m e.1 = some e.2 := by
    refine ⟨get?_of_mem hm, fun hget => ?_⟩
    have hkey : e.1 ∈ keys m := by
      rw [mem_keys_iff, contains, hget]
      rfl
    obtain ⟨d, hd, hde⟩ := List.mem_map.1 hkey
    have hvalue := get?_of_mem hm hd
    rw [hde, hget] at hvalue
    rwa [Prod.ext hde.symm (Option.some.inj hvalue)]
  have hnodup {m : OrderedMap κ α} (hm : (keys m).Nodup) : List.Nodup m := List.Nodup.of_map _ hm
  refine (List.perm_ext_iff_of_nodup (hnodup hm) (hnodup hn)).2 fun e => ?_
  rw [hmem hm, hmem hn, h]

/-! ## Common nodes -/

/-- A node for which both profiles have the same rules: it has to be there, it has no title and no
kind with rules of its own, and a string has a least length. -/
structure Node.Common (n : Node) : Prop where
  required : n.isRequired = true
  untitled : n.attributes.title = none
  kind : n.kind ∈ [.boolean, .number, .integer, .object, .array, .string]
  bounded : n.kind = .string → ∃ c ∈ n.leaves, c.minLength?.isSome = true

namespace Profile

variable {n : Node}

theorem effect_fullBase (h : n.Common) (k : Keywords) :
    Step.fullBase.effect n k = Step.plainBase.effect n k := by
  rw [Step.fullBase, Step.plainBase, Step.effect_ofFunction, Step.effect_ofFunction, Step.addTitle,
    h.untitled, Step.allowNull, if_pos h.required]
  rfl

theorem nullableChoices_eq (h : n.isRequired = true) (nullValues : List Json) :
    Rule.nullableChoices nullValues n = Rule.choices n := by
  funext c
  cases c with
  | oneOf values => rw [Rule.nullableChoices, Rule.choices, if_pos h]
  | _ => rfl

theorem leafKeywords_textRules (h : n.isRequired = true) :
    Rule.leafKeywords draft4StringRules n =
      Rule.leafKeywords [Rule.stringLength, Rule.textForm, Rule.choices] n := by
  have hchoices : Rule.stringChoices n = Rule.choices n := nullableChoices_eq h _
  funext c
  simp only [Rule.leafKeywords, Rule.firstKeywords?, draft4StringRules, List.findSome?_cons,
    hchoices]

theorem leafKeywords_numberRules (h : n.isRequired = true) :
    Rule.leafKeywords [Rule.range, Rule.numberChoices] n =
      Rule.leafKeywords [Rule.range, Rule.choices] n := by
  have hchoices : Rule.numberChoices n = Rule.choices n := nullableChoices_eq h _
  funext c
  simp only [Rule.leafKeywords, Rule.firstKeywords?, List.findSome?_cons, hchoices]

theorem effect_rules_congr {rs rs' : List Rule}
    (h : Rule.leafKeywords rs n = Rule.leafKeywords rs' n) (k : Keywords) :
    (Step.rules rs).effect n k = (Step.rules rs').effect n k := by
  rw [Step.rules, Step.rules, Step.effect_ofFunction, Step.effect_ofFunction, Rule.collect_eq_foldl,
    Rule.collect_eq_foldl, h]

theorem ownKeywords_eq (h : n.Common) (hn : n.kind ≠ .string) :
    draft4.ownKeywords n = swagger2.ownKeywords n := by
  have hbase := effect_fullBase h
  have hrules := effect_rules_congr (leafKeywords_numberRules h.required)
  have hkind := h.kind
  rw [ownKeywords, ownKeywords]
  cases hκ : n.kind with
  | boolean | object => exact hbase _
  | number | integer =>
    change (Step.rules [Rule.range, Rule.numberChoices]).effect n (Step.fullBase.effect n _) =
      (Step.rules [Rule.range, Rule.choices]).effect n (Step.plainBase.effect n _)
    rw [hbase, hrules]
    rfl
  | array => exact congrArg ((Step.rules [Rule.arrayLength]).effect n) (hbase _)
  | string => exact absurd hκ hn
  | _ => simp [hκ] at hkind

/-- Storing a value that is overwritten later leaves its key in another place. -/
theorem perm_extend_insert {m n : Keywords} (hm : (keys m).Nodup) {key : String}
    (hkey : key ∈ keys n) (v : Json) : (extend (OrderedMap.insert m key v) n).Perm (extend m n) := by
  refine perm_of_get? (nodup_keys_extend (nodup_keys_insert hm key v) n) (nodup_keys_extend hm n) ?_
  intro a
  rw [get?_extend, get?_extend, get?_insert]
  split_ifs with ha
  · subst ha
    have hmem : key ∈ keys n.reverse := by
      rw [keys, List.map_reverse, List.mem_reverse]
      exact hkey
    obtain ⟨w, hw⟩ := Option.isSome_iff_exists.1 ((mem_keys_iff _ _).1 hmem)
    rw [hw, Option.some_or, Option.some_or]
  · rfl

theorem minLength_mem_collect (h : ∃ c ∈ n.leaves, c.minLength?.isSome = true) :
    "minLength" ∈ keys (Rule.collect draft4StringRules n n.attributes.constraint) := by
  have hget := Rule.get?_collect givesMaps_draft4StringRules n "minLength"
  simp only [Rule.get?_textRules, Node.lastOf?_map] at hget
  obtain ⟨c, hc, hmin⟩ := h
  have hlast : (n.lastOf? Constraint.minLength?).isSome = true :=
    List.findSome?_isSome_iff.2 ⟨c, List.mem_reverse.2 hc, hmin⟩
  rw [mem_keys_iff, contains, hget, Option.isSome_map, hlast]

/-- **Both profiles write the same for a common node**, up to the order of keys. -/
theorem perm_ownKeywords (h : n.Common) : (draft4.ownKeywords n).Perm (swagger2.ownKeywords n) := by
  by_cases hn : n.kind = .string
  · have hleaf : n.kind.isLeaf = true := by rw [hn]; rfl
    have hdraft4 : draft4.recipe? n.kind = some (draft4String []) := by rw [hn]; rfl
    have hswagger2 : swagger2.recipe? n.kind = some ⟨"string", [Step.plainBase,
        Step.rules [Rule.stringLength, Rule.textForm, Rule.choices]]⟩ := by rw [hn]; rfl
    have hnodup : (keys (Step.plainBase.effect n [("type", .string "string")])).Nodup :=
      nodup_keys_base swagger2 (List.nodup_singleton _)
    rw [ownKeywords_of_isLeaf hleaf hdraft4, ownKeywords_of_isLeaf hleaf hswagger2]
    change ((Step.rules draft4StringRules).effect n (Step.nonEmpty.effect n
      (Step.fullBase.effect n [("type", .string "string")]))).Perm
        ((Step.rules _).effect n (Step.plainBase.effect n [("type", .string "string")]))
    rw [effect_fullBase h, ← effect_rules_congr (leafKeywords_textRules h.required), Step.nonEmpty,
      Step.effect_ofFunction, if_pos h.required]
    exact perm_extend_insert hnodup (minLength_mem_collect (h.bounded hn)) _
  · rw [ownKeywords_eq h hn]

/-! ## What is written for a tree -/

/-- What is written for a node is the same in every profile, or it is put together from the own
keywords and from what is written for the parts. -/
def Written (f : Profile → Node → Keywords) : Prop :=
  ∀ n, (∃ k, ∀ p, f p n = k) ∨ ∀ p, f p n = p.assemble n (n.parts.map fun e => some (f p e.2))

theorem written_inline : Written inline := fun n => Or.inr fun p => inline_eq p n

theorem written_site : Written site := by
  intro n
  cases hn : n.objectName? with
  | none => exact Or.inr fun p => by rw [site_of_none hn, body_eq]
  | some name => exact Or.inl ⟨_, fun p => site_of_some hn⟩

section

variable {R : Json → Json → Prop} {p q : Profile} {f : Profile → Node → Keywords}

theorem related_assemble (hR : Json.Congruence R)
    (hown : ∀ rest, R (.object (p.ownKeywords n ++ rest)) (.object (q.ownKeywords n ++ rest)))
    (hparts : ∀ e ∈ n.parts, R (.object (f p e.2)) (.object (f q e.2))) (rest : Keywords) :
    R (.object (p.assemble n (n.parts.map fun e => some (f p e.2)) ++ rest))
      (.object (q.assemble n (n.parts.map fun e => some (f q e.2)) ++ rest)) := by
  rcases n.object_or_array_or_leaf with hn | hn | hn
  · rw [assemble_of_object p _ hn, assemble_of_object q _ hn, List.append_assoc, List.append_assoc]
    have hchildren : Json.RelatedMembers R (n.children.map fun c => (c.name, .object (f p c)))
        (n.children.map fun c => (c.name, .object (f q c))) := by
      refine List.forall₂_map_left_iff.2 (List.forall₂_map_right_iff.2 (List.forall₂_same.2 ?_))
      exact fun c hc => ⟨rfl, hparts _ (Node.property_mem_parts hn hc)⟩
    have hproperties := hR.members (Json.relatedMembers_extend .nil hchildren) [] []
    simp only [List.nil_append, List.append_nil] at hproperties
    exact hR.trans (hown _) (hR.member _ _ _ hproperties)
  · rw [assemble_of_array p _ hn, assemble_of_array q _ hn, List.append_assoc, List.append_assoc]
    rw [Node.parts_of_array hn] at hparts
    cases hc : n.children.head? with
    | none => exact hown _
    | some c =>
      rw [hc] at hparts
      exact hR.trans (hown _) (hR.member _ _ _ (hparts (.items, c) (List.mem_singleton.2 rfl)))
  · rw [assemble_of_leaf p _ hn, assemble_of_leaf q _ hn]
    exact hown rest

/-- **Profiles whose own keywords are related write related keywords.** -/
theorem related_written (hR : Json.Congruence R) (hf : Written f)
    (hown : ∀ m ∈ n.postOrder, ∀ rest,
      R (.object (p.ownKeywords m ++ rest)) (.object (q.ownKeywords m ++ rest))) (rest : Keywords) :
    R (.object (f p n ++ rest)) (.object (f q n ++ rest)) := by
  induction n using Node.parts_induction generalizing rest with
  | h n ih =>
    rcases hf n with ⟨k, hk⟩ | hn
    · rw [hk, hk]
      exact hR.refl _
    · rw [hn, hn]
      refine related_assemble hR (hown n n.self_mem_postOrder) (fun e he => ?_) rest
      have hbelow := Node.postOrder_subset (Node.part_mem_postOrder n.self_mem_postOrder he)
      have hpart := ih e he (fun m hm => hown m (hbelow hm)) []
      rwa [List.append_nil, List.append_nil] at hpart

/-! ## Documents -/

variable {root : Node} {extracts : Bool}

theorem exists_generate (extracts : Bool) (dialect : Option String)
    (h : ∀ m ∈ root.postOrder, p.converts m.kind = true) :
    ∃ document, (p.generator extracts dialect).generate root = .ok document := by
  cases hgenerate : (p.generator extracts dialect).generate root with
  | ok document => exact ⟨document, rfl⟩
  | error e =>
    obtain ⟨m, hm, -, hnot⟩ := p.generate_failure extracts dialect hgenerate
    rw [h m ((Node.mem_postOrder_iff []).2 ⟨_, hm⟩)] at hnot
    cases hnot

theorem related_schemasOf (hR : Json.Congruence R)
    (hown : ∀ m ∈ root.postOrder, ∀ rest,
      R (.object (p.ownKeywords m ++ rest)) (.object (q.ownKeywords m ++ rest))) :
    Json.RelatedMembers R (p.schemasOf (Node.finish [] root))
      (q.schemasOf (Node.finish [] root)) := by
  obtain ⟨objects, hfinish, hobjects⟩ := root.adds_finish []
  rw [hfinish, List.nil_append]
  refine List.forall₂_map_left_iff.2 (List.forall₂_map_right_iff.2 (List.forall₂_same.2 ?_))
  intro d hd
  have hn := (hobjects d hd).1
  refine ⟨rfl, ?_⟩
  have hbody := related_assemble (f := site) hR (hown d.2 hn) (fun e he => ?_) []
  · rwa [List.append_nil, List.append_nil, ← body_eq, ← body_eq] at hbody
  · have hbelow := Node.postOrder_subset (Node.part_mem_postOrder hn he)
    have hsite := related_written hR written_site (fun m hm => hown m (hbelow hm)) []
    rwa [List.append_nil, List.append_nil] at hsite

theorem related_definitionsEntry (hR : Json.Congruence R) {defs defs' : OrderedMap String Json}
    (h : Json.RelatedMembers R defs defs') (k rest : Keywords) :
    R (.object (k ++ (definitionsEntry defs ++ rest)))
      (.object (k ++ (definitionsEntry defs' ++ rest))) := by
  cases h with
  | nil => exact hR.refl _
  | cons hd hdefs =>
    have hobject := hR.members (.cons hd hdefs) [] []
    simp only [List.nil_append, List.append_nil] at hobject
    exact hR.member k rest "definitions" hobject

/-- **Profiles whose own keywords are related give related documents.** -/
theorem related_generate (hR : Json.Congruence R)
    (hown : ∀ m ∈ root.postOrder, ∀ rest,
      R (.object (p.ownKeywords m ++ rest)) (.object (q.ownKeywords m ++ rest))) {a b : Json}
    (ha : (p.generator extracts none).generate root = .ok a)
    (hb : (q.generator extracts none).generate root = .ok b) : R a b := by
  cases extracts with
  | false =>
    rw [(inline_of_generate ha).2, (inline_of_generate hb).2]
    exact related_written hR written_inline hown _
  | true =>
    obtain ⟨-, -, rfl⟩ := generate_eq ha
    obtain ⟨-, -, rfl⟩ := generate_eq hb
    have hdefinitions := related_schemasOf hR hown
    have hsite := related_written hR written_site hown
    rw [List.append_assoc, List.append_assoc]
    exact hR.trans (hsite _) (related_definitionsEntry hR hdefinitions _ _)

end

/-- **Draft-04 and Swagger 2 agree where their rules coincide.** For a tree of common nodes both
profiles have a document, with and without definitions. The documents are equal up to the order of
members, and equal if there is no string among the nodes. -/
theorem draft4_agrees_with_swagger2 {root : Node} (h : ∀ e ∈ root.reachable [], e.2.Common)
    (extracts : Bool) :
    ∃ a b, (draft4.generator extracts none).generate root = .ok a ∧
      (swagger2.generator extracts none).generate root = .ok b ∧ a.Reorders b ∧
      ((∀ e ∈ root.reachable [], e.2.kind ≠ .string) → a = b) := by
  have hcommon : ∀ m ∈ root.postOrder, m.Common := by
    intro m hm
    obtain ⟨q, hq⟩ := (Node.mem_postOrder_iff []).1 hm
    exact h _ hq
  have hconverts (p : Profile) : ∀ m ∈ root.postOrder, p.converts m.kind = true := by
    intro m hm
    have hkind := (hcommon m hm).kind
    rw [converts_eq]
    cases hκ : m.kind <;> simp_all [Kind.isDecimal]
  obtain ⟨a, ha⟩ := exists_generate extracts none (hconverts draft4)
  obtain ⟨b, hb⟩ := exists_generate extracts none (hconverts swagger2)
  refine ⟨a, b, ha, hb, ?_, fun hstrings => ?_⟩
  · refine related_generate Json.congruence_reorders (fun m hm rest => ?_) ha hb
    exact .permuted ((perm_ownKeywords (hcommon m hm)).append_right rest)
  · refine related_generate Json.congruence_eq (fun m hm rest => ?_) ha hb
    obtain ⟨q, hq⟩ := (Node.mem_postOrder_iff []).1 hm
    rw [ownKeywords_eq (hcommon m hm) (hstrings _ hq)]

/-- Scores from one to three. -/
def scores : Node :=
  (Node.ofKind .array).child ((Node.ofKind .integer).withConstraint
    (.oneOf [.number (.int 1), .number (.int 2), .number (.int 3)]))

/-- A customer with a code of at least two characters, and with scores. -/
def customer : Node :=
  (((Node.ofKind .object).withTypeName "Customer").withDescription "Who buys").field "code"
    ((Node.ofKind .string).withConstraint (.all [.email, .all [.length (some 2) (some 9)]]))
    |>.field "scores" scores

/-- The bounds of the code stand in another order, and scores alone are written in the same way. -/
theorem customer_agrees :
    (∀ e ∈ customer.reachable [], e.2.Common) ∧
      (∃ a b, (draft4.generator true none).generate customer = .ok a ∧
        (swagger2.generator true none).generate customer = .ok b ∧ a.Reorders b ∧ a ≠ b) ∧
      (draft4.generator false none).generate scores =
        (swagger2.generator false none).generate scores := by
  have hscores : ∀ e ∈ scores.reachable [], e.2.Common ∧ e.2.kind ≠ .string := by
    change ∀ e ∈ [([], scores), (_, _)], _
    simp only [List.forall_mem_cons]
    exact ⟨⟨⟨rfl, rfl, by decide, by decide⟩, by decide⟩,
      ⟨⟨rfl, rfl, by decide, by decide⟩, by decide⟩, List.forall_mem_nil _⟩
  have hcustomer : ∀ e ∈ customer.reachable [], e.2.Common := by
    change ∀ e ∈ [([], customer), (_, _), (_, _), (_, _)], _
    simp only [List.forall_mem_cons]
    refine ⟨⟨rfl, rfl, by decide, by decide⟩, ⟨rfl, rfl, by decide, fun _ => ?_⟩,
      ⟨rfl, rfl, by decide, by decide⟩, ⟨rfl, rfl, by decide, by decide⟩, List.forall_mem_nil _⟩
    exact ⟨.length (some 2) (some 9), List.mem_cons_of_mem _ (List.mem_singleton.2 rfl), rfl⟩
  obtain ⟨a, b, ha, hb, hab, -⟩ := draft4_agrees_with_swagger2 hcustomer true
  obtain ⟨c, d, hc, hd, -, hcd⟩ := draft4_agrees_with_swagger2 (fun e he => (hscores e he).1) false
  refine ⟨hcustomer, ⟨a, b, ha, hb, hab, ?_⟩, ?_⟩
  · rintro rfl
    have hsame := ha.trans hb.symm
    revert hsame
    decide
  · rw [hc, hd, hcd fun e he => (hscores e he).2]

end Profile

end SchemaTree
