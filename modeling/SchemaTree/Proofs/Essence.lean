import SchemaTree.Proofs.Alike
import SchemaTree.Proofs.Resolution

/-!
# The essence of a tree

Much that a tree can say is of no account: what lies below a leaf or behind the first item, places
of what is no decimal, type names that are not shared, names that lead nowhere, and constraints that
mean nothing for their kind. The **essence** of a tree is the tree without all that.

* `Constraint.restrict`: a constraint without some of its leaves, `Constraint.leaves_restrict`;
* `Node.essence`, with `Node.Bare`, `Node.bare_essence`: nothing of no account is left in it;
* `Profile.resolve_trimmed`: what remains of a node is resolved like the node;
* **`Profile.conversion_sees_the_essence`**.
-/

namespace SchemaTree

open OrderedMap

/-! ## Constraints -/

namespace Constraint

variable (keep : Constraint → Bool)

mutual

/-- The constraint without the leaves that are not to be kept; conjunctions stay, if need be without
members. -/
def restrict : Constraint → Option Constraint
  | all members => some (all (restrictAll members))
  | c => if keep c then some c else none

/-- The constraints of a list without the leaves that are not to be kept. -/
def restrictAll : List Constraint → List Constraint
  | [] => []
  | c :: cs => (restrict c).toList ++ restrictAll cs

end

mutual

theorem leaves_restrict : ∀ c : Constraint,
    (c.restrict keep).toList.flatMap leaves = c.leaves.filter keep
  | all members => by
    rw [restrict, Option.toList_some, List.flatMap_singleton, leaves, leaves, leaves_restrictAll]
  | length .. | range .. | regex .. | email | url | oneOf .. => by
    simp only [restrict, leaves, List.filter_cons, List.filter_nil]
    split_ifs <;> rfl

theorem leaves_restrictAll : ∀ cs : List Constraint,
    leavesOfAll (restrictAll keep cs) = (leavesOfAll cs).filter keep
  | [] => rfl
  | c :: cs => by
    rw [restrictAll, leavesOfAll_eq_flatMap, List.flatMap_append, leaves_restrict,
      ← leavesOfAll_eq_flatMap, leaves_restrictAll, leavesOfAll, List.filter_append]

end

end Constraint

/-! ## Trees -/

/-- What a node says about itself, without what is of no account for its kind. -/
def Attributes.trimmed (extracts : Bool) (a : Attributes) : Attributes :=
  { a with
    typeName := if extracts && a.kind.isObject then a.typeName else none
    constraint := a.constraint.bind (Constraint.restrict a.kind.understands)
    scale := if a.kind.isDecimal then a.scale else none }

/-- The children that a conversion goes into: of an array the first, whose name is of no account. -/
def Kind.keptChildren (κ : Kind) (children : List Node) : List Node :=
  if κ.isObject then children
  else if κ.isArray then children.head?.toList.map fun c => c.named ""
  else []

namespace Node

variable (extracts : Bool)

mutual

/-- The node without what is of no account in it and below, apart from its name. -/
def trimmed : Node → Node
  | mk a children => mk (a.trimmed extracts) (a.kind.keptChildren (trimmedAll children))

/-- The nodes of a list without what is of no account. -/
def trimmedAll : List Node → List Node
  | [] => []
  | c :: cs => trimmed c :: trimmedAll cs

end

/-- The tree without all that is of no account. -/
def essence (root : Node) : Node := (root.trimmed extracts).named ""

theorem trimmedAll_eq_map (cs : List Node) : trimmedAll extracts cs = cs.map (trimmed extracts) := by
  induction cs with
  | nil => rfl
  | cons c cs ih => rw [trimmedAll, ih, List.map_cons]

theorem trimmed_eq (n : Node) : n.trimmed extracts =
    mk (n.attributes.trimmed extracts) (n.kind.keptChildren (n.children.map (trimmed extracts))) := by
  obtain ⟨a, children⟩ := n
  rw [trimmed, trimmedAll_eq_map]
  rfl

end Node

/-- Nothing that is of no account is in the node, apart from its name. -/
structure Node.Bare (extracts : Bool) (n : Node) : Prop where
  leaf : n.kind.isLeaf = true → n.children = []
  array : n.kind.isArray = true → n.children.length ≤ 1 ∧ ∀ c ∈ n.children, c.name = ""
  scale : n.kind.isDecimal = false → n.attributes.scale = none
  typeName : (extracts && n.kind.isObject) = false → n.typeName = none
  leaves : ∀ c ∈ n.leaves, n.kind.understands c = true

namespace Node

variable (extracts : Bool) (n : Node)

theorem named_name : n.named n.name = n := by
  obtain ⟨a, children⟩ := n
  rfl

@[simp] theorem attributes_trimmed : (n.trimmed extracts).attributes = n.attributes.trimmed extracts := by
  rw [trimmed_eq]
  rfl

@[simp] theorem kind_trimmed : (n.trimmed extracts).kind = n.kind := by
  rw [kind, attributes_trimmed]
  rfl

@[simp] theorem name_trimmed : (n.trimmed extracts).name = n.name := by
  rw [name, attributes_trimmed]
  rfl

@[simp] theorem isRequired_trimmed : (n.trimmed extracts).isRequired = n.isRequired := by
  rw [isRequired, attributes_trimmed]
  rfl

theorem children_trimmed :
    (n.trimmed extracts).children = n.kind.keptChildren (n.children.map (trimmed extracts)) := by
  rw [trimmed_eq]
  rfl

theorem leaves_trimmed : (n.trimmed extracts).leaves = n.leaves.filter n.kind.understands := by
  rw [leaves, attributes_trimmed, leaves]
  change (n.attributes.constraint.bind (Constraint.restrict n.kind.understands)).toList.flatMap _ = _
  cases n.attributes.constraint with
  | none => rfl
  | some c =>
    rw [Option.bind_some, Constraint.leaves_restrict, Option.toList_some, List.flatMap_singleton]

/-- What remains of a child is one of the children that remain, perhaps under no name. -/
theorem mem_children_trimmed {d : Node} (hd : d ∈ (n.trimmed extracts).children) :
    ∃ c ∈ n.children, ∃ name, d = (c.trimmed extracts).named name := by
  rw [children_trimmed, Kind.keptChildren] at hd
  split_ifs at hd
  · obtain ⟨c, hc, rfl⟩ := List.mem_map.1 hd
    exact ⟨c, hc, _, (named_name _).symm⟩
  · obtain ⟨d, hhead, rfl⟩ := List.mem_map.1 hd
    obtain ⟨c, hc, rfl⟩ := List.mem_map.1 (List.mem_of_mem_head? (Option.mem_toList.1 hhead))
    exact ⟨c, hc, "", rfl⟩
  · cases hd

theorem bare_trimmed : (n.trimmed extracts).Bare extracts where
  leaf h := by
    rw [kind_trimmed] at h
    have hkind : n.kind.isObject = false ∧ n.kind.isArray = false := by
      simpa [Kind.isLeaf] using h
    rw [children_trimmed, Kind.keptChildren, hkind.1, hkind.2]
    rfl
  array h := by
    rw [kind_trimmed] at h
    have hobject : n.kind.isObject = false := by
      rw [of_decide_eq_true h]
      rfl
    rw [children_trimmed, Kind.keptChildren, hobject, h]
    cases n.children with
    | nil => simp
    | cons c cs => exact ⟨Nat.le_refl _, by simp [named, withAttributes, name, attributes]⟩
  scale h := by
    rw [kind_trimmed] at h
    rw [attributes_trimmed, Attributes.trimmed]
    exact if_neg (by rw [← kind, h]; decide)
  typeName h := by
    rw [kind_trimmed] at h
    rw [typeName, attributes_trimmed, Attributes.trimmed]
    exact if_neg (by rw [← kind, h]; decide)
  leaves c hc := by
    rw [leaves_trimmed] at hc
    rw [kind_trimmed]
    exact (List.mem_filter.1 hc).2

variable {extracts n} in
theorem Bare.named (h : n.Bare extracts) (name : String) : (n.named name).Bare extracts :=
  ⟨h.leaf, h.array, h.scale, h.typeName, h.leaves⟩

/-- **Nothing of no account is left** in the essence of a tree. -/
theorem bare_essence : ∀ m ∈ (n.essence extracts).subtrees, m.Bare extracts := by
  have hall : ∀ name, ∀ m ∈ ((n.trimmed extracts).named name).subtrees, m.Bare extracts := by
    induction n using induction with
    | h n ih =>
      intro name m hm
      rw [subtrees_eq] at hm
      rcases List.mem_cons.1 hm with rfl | hm
      · exact (n.bare_trimmed extracts).named name
      · obtain ⟨d, hd, hm⟩ := List.mem_flatMap.1 hm
        obtain ⟨c, hc, name', rfl⟩ := n.mem_children_trimmed extracts hd
        exact ih c hc name' m hm
  exact hall ""

example : ((((((ofKind .array).named "codes").withScale 2).withConstraint
      (.all [.email, .length none (some 3)])).child ((ofKind .string).named "code")).child
        (ofKind .money)).essence true =
    ((ofKind .array).withConstraint (.all [.length none (some 3)])).child (ofKind .string) := rfl

end Node

/-! ## Resolving -/

/-- The name that a segment stands for; an item has none. -/
def Segment.name : Segment → String
  | property name => name
  | items => ""

namespace Node

variable (extracts : Bool) (n : Node) (name : String)

theorem alike_trimmed : ((n.trimmed extracts).named name).Alike n := by
  have hattributes := n.attributes_trimmed extracts
  have hkind : ((n.trimmed extracts).named name).kind = n.kind := n.kind_trimmed extracts
  have hleaves : ((n.trimmed extracts).named name).leaves = n.leaves.filter n.kind.understands :=
    n.leaves_trimmed extracts
  refine ⟨hkind, ?_, ?_, ?_, ?_, fun h => ?_, ?_⟩
  · change (n.trimmed extracts).attributes.required = _
    rw [hattributes]
    rfl
  · change (n.trimmed extracts).attributes.title = _
    rw [hattributes]
    rfl
  · change (n.trimmed extracts).attributes.description = _
    rw [hattributes]
    rfl
  · change (n.trimmed extracts).attributes.defaultValue = _
    rw [hattributes]
    rfl
  · rw [hkind] at h
    change (n.trimmed extracts).attributes.scale = _
    rw [hattributes]
    exact if_pos h
  · rw [hkind, hleaves, List.filter_filter]
    simp only [Bool.and_self]

theorem parts_trimmed : ((n.trimmed extracts).named name).parts =
    n.parts.map fun e => (e.1, (e.2.trimmed extracts).named e.1.name) := by
  have hkind : ((n.trimmed extracts).named name).kind = n.kind := n.kind_trimmed extracts
  have hchildren : ((n.trimmed extracts).named name).children =
      n.kind.keptChildren (n.children.map (trimmed extracts)) := n.children_trimmed extracts
  have hname (c : Node) : c.trimmed extracts = (c.trimmed extracts).named c.name := by
    rw [← c.name_trimmed extracts, named_name]
  rcases n.object_or_array_or_leaf with h | h | h
  · rw [parts_of_object (hkind.trans h), parts_of_object h, hchildren, h, List.map_map]
    change (n.children.map (trimmed extracts)).map _ = _
    rw [List.map_map]
    refine List.map_congr_left fun c _ => ?_
    change (Segment.property (c.trimmed extracts).name, c.trimmed extracts) =
      (.property c.name, (c.trimmed extracts).named c.name)
    rw [name_trimmed, ← hname]
  · rw [parts_of_array (hkind.trans h), parts_of_array h, hchildren, h]
    cases n.children <;> rfl
  · rw [parts_of_leaf (hkind ▸ h), parts_of_leaf h]
    rfl

theorem partKeywords_trimmed (ks : List (Option Keywords)) :
    ((n.trimmed extracts).named name).partKeywords ks = n.partKeywords ks := by
  have hkind : ((n.trimmed extracts).named name).kind = n.kind := n.kind_trimmed extracts
  have hchildren : ((n.trimmed extracts).named name).children =
      n.kind.keptChildren (n.children.map (trimmed extracts)) := n.children_trimmed extracts
  rw [partKeywords, partKeywords, hkind]
  split_ifs with hobject
  · rw [Kind.keptChildren, if_pos hobject] at hchildren
    have hrequired : Step.requiredNames (n.children.map (trimmed extracts)) =
        Step.requiredNames n.children := by
      simp only [Step.requiredNames, List.filter_map, List.map_map, Function.comp_def, name_trimmed,
        isRequired_trimmed]
    have hentries : Generator.propertyEntries (n.children.map (trimmed extracts)) ks =
        Generator.propertyEntries n.children ks := by
      simp only [Generator.propertyEntries, List.zip_map_left, List.filterMap_map,
        Function.comp_def, Prod.map_fst, Prod.map_snd, name_trimmed, id_eq]
    rw [requiredEntry, requiredEntry, hchildren, hrequired, hentries]
  · rfl
  · rfl

end Node

theorem Generator.resolveParts_congr {g : Generator} {parts : List (Segment × Node)}
    {f : Segment × Node → Node} (h : ∀ e ∈ parts, g.resolve (f e) = g.resolve e.2) :
    g.resolveParts (parts.map fun e => (e.1, f e)) = g.resolveParts parts := by
  induction parts with
  | nil => rfl
  | cons e parts ih =>
    obtain ⟨hpart, hparts⟩ := List.forall_mem_cons.1 h
    funext s
    rw [List.map_cons, Generator.resolveParts, Generator.resolveParts, hpart, ih hparts]

namespace Profile

variable (p : Profile) (extracts : Bool) (dialect : Option String)

theorem convert_trimmed {n : Node}
    (h : ∀ e ∈ n.parts, ∀ name, (p.generator extracts dialect).resolve
      ((e.2.trimmed extracts).named name) = (p.generator extracts dialect).resolve e.2)
    (name : String) :
    (p.generator extracts dialect).convert ((n.trimmed extracts).named name) =
      (p.generator extracts dialect).convert n := by
  have halike := n.alike_trimmed extracts name
  have hparts : (p.generator extracts dialect).resolveParts
      ((n.trimmed extracts).named name).parts =
        (p.generator extracts dialect).resolveParts n.parts := by
    rw [Node.parts_trimmed]
    exact Generator.resolveParts_congr fun e he => h e he e.1.name
  have hassemble : p.assemble ((n.trimmed extracts).named name) = p.assemble n := by
    funext ks
    rw [assemble, assemble, ownKeywords_congr halike, Node.partKeywords_trimmed]
  funext s
  cases hn : p.converts n.kind with
  | false =>
    rw [convert_of_not_converts extracts dialect hn,
      convert_of_not_converts extracts dialect (halike.kind ▸ hn), halike.kind]
  | true =>
    rw [convert_eq extracts dialect hn, convert_eq extracts dialect (halike.kind ▸ hn), hparts,
      hassemble]

/-- **What remains of a node is resolved like the node**, under any name. -/
theorem resolve_trimmed (n : Node) : ∀ name,
    (p.generator extracts dialect).resolve ((n.trimmed extracts).named name) =
      (p.generator extracts dialect).resolve n := by
  induction n using Node.parts_induction with
  | h n ih =>
    intro name
    have hconvert := p.convert_trimmed extracts dialect ih name
    have hname : (p.generator extracts dialect).sharedName? ((n.trimmed extracts).named name) =
        (p.generator extracts dialect).sharedName? n := by
      change (if extracts && (n.trimmed extracts).kind.isObject then
        (n.trimmed extracts).attributes.typeName else none) =
          if extracts && n.kind.isObject then n.attributes.typeName else none
      rw [Node.kind_trimmed, Node.attributes_trimmed]
      split_ifs with h
      · exact if_pos h
      · rfl
    rw [Generator.resolve_eq, Generator.resolve_eq]
    exact Generator.resolveNode_congr hname hconvert

/-- **A conversion sees the essence of a tree only.** Nothing that is of no account is left in the
essence, and yet it has the document of the tree, or the same error, and the conversion reports the
same. -/
theorem conversion_sees_the_essence (root : Node) :
    (∀ n ∈ (root.essence extracts).subtrees, n.Bare extracts) ∧
      (p.generator extracts dialect).generate (root.essence extracts) =
        (p.generator extracts dialect).generate root ∧
      (p.generator extracts dialect).events (root.essence extracts) =
        (p.generator extracts dialect).events root := by
  have hrun : (p.generator extracts dialect).run (root.essence extracts) =
      (p.generator extracts dialect).run root :=
    congrFun (p.resolve_trimmed extracts dialect root "") {}
  refine ⟨root.bare_essence extracts, ?_, ?_⟩
  · rw [Generator.generate, Generator.generate, hrun]
  · rw [Generator.events, Generator.events, hrun]

end Profile

end SchemaTree
