import SchemaTree.Proofs.Sharing
import SchemaTree.Proofs.Sites

/-!
# Named types are collected

With definitions, every named type of a consistent tree has one definition, and the definitions
stand in post-order. A named object is written as a reference to its definition, and every other
node is written in place. Only at the root of a document does more stand beside the reference: the
definitions and the dialect.

* `Profile.InPlace`, `Profile.inPlace_body`: the keywords of a node in place;
* `Profile.Stands`: what stands for a node;
* `Profile.converts_of_generate`: a consistent tree with a document has converters for all nodes;
* **`Profile.named_types_are_collected`**.
-/

namespace SchemaTree

open OrderedMap

theorem Node.Consistent.sameChildren {root : Node} (hroot : root.Consistent) :
    root.SameChildren := by
  intro m hm m' hm' name hname hname'
  obtain ⟨q, hq⟩ := (mem_postOrder_iff []).1 hm
  obtain ⟨q', hq'⟩ := (mem_postOrder_iff []).1 hm'
  obtain ⟨hkind, htype⟩ := objectName?_eq_some_iff.1 hname
  obtain ⟨hkind', htype'⟩ := objectName?_eq_some_iff.1 hname'
  have hsame := congrArg Node.children (hroot _ hq _ hq' hkind hkind' name htype htype')
  exact hsame

namespace Profile

variable {p : Profile} {n : Node} {k : Keywords}

/-! ## Nodes in place -/

/-- The keywords of a node, written in place: its type, and its properties or its item. -/
structure InPlace (p : Profile) (n : Node) (k : Keywords) : Prop where
  type : get? k "type" = some (p.typeValue n)
  reference : "$ref" ∉ keys k
  properties : n.kind = .object → ∃ schemas : Keywords,
    get? k "properties" = some (.object schemas) ∧
      keys schemas = (n.children.map Node.name).eraseDups
  items : n.kind = .array → (get? k "items" = none ↔ n.children = [])

theorem keys_propertySites (p : Profile) (n : Node) :
    keys (p.propertySites n) = (n.children.map Node.name).eraseDups := by
  rw [propertySites, keys_extend_nil, keys, List.map_map]
  rfl

/-- **A body is written in place.** -/
theorem inPlace_body (hn : p.converts n.kind = true) : p.InPlace n (p.body n) where
  type := by
    obtain ⟨details, hown, -⟩ := ownKeywords_eq_cons hn
    rw [body_eq, assemble, hown]
    rfl
  reference := by
    rw [body_eq]
    exact not_mem_keys_assemble hn (by decide)
  properties ho := by
    refine ⟨p.propertySites n, ?_, keys_propertySites p n⟩
    rw [body_of_object ho, get?_append, get?_ownKeywords hn (by decide), Option.none_or, get?,
      if_pos rfl]
  items ha := by
    rw [body_of_array ha, get?_append, get?_ownKeywords hn (by decide), Option.none_or]
    cases n.children <;> simp [get?]

/-- A named object is written as a reference and nothing else, and any other node in place. -/
structure Stands (p : Profile) (n : Node) (k : Keywords) : Prop where
  shared : ∀ name, n.objectName? = some name → k = Keywords.reference name
  inlined : n.objectName? = none → p.InPlace n k

theorem stands_site (hn : p.converts n.kind = true) : p.Stands n (p.site n) where
  shared _ hname := site_of_some hname
  inlined hname := by
    rw [site_of_none hname]
    exact inPlace_body hn

/-! ## Documents -/

variable {root : Node} {dialect : Option String} {document : Json}

/-- A consistent tree with a document would have one without definitions as well, so all its nodes
have a converter. -/
theorem converts_of_generate (hroot : root.Consistent)
    (h : (p.generator true dialect).generate root = .ok document) (hn : n ∈ root.postOrder) :
    p.converts n.kind = true := by
  obtain ⟨k, t, hrun, -, -, -, -⟩ := generate_ordered h
  obtain ⟨-, -, hexpands⟩ :=
    p.resolve_simulates dialect hroot root {} (root.self_mem_reachable []) .nil
  have hinline := hexpands _ (List.prefix_refl _) _ (Nat.le_refl _)
  rw [Generator.run] at hrun
  rw [hrun, inlineOutcome] at hinline
  have hnone : p.failure? [] root = none := by
    cases hfailure : p.failure? [] root with
    | none => rfl
    | some e =>
      rw [hfailure] at hinline
      cases hinline
  obtain ⟨q, hq⟩ := (Node.mem_postOrder_iff []).1 hn
  exact failure?_eq_none_iff.1 hnone _ hq

/-- **Named types are collected.** In the document of a consistent tree, the definitions have the
type names of all reachable objects, in post-order and without repetition; they are absent if there
are none. Named objects are written as references and all other nodes in place. -/
theorem named_types_are_collected (hroot : root.Consistent)
    (h : (p.generator true dialect).generate root = .ok document) :
    keys document.definitions = (root.postOrder.filterMap Node.objectName?).eraseDups ∧
      (document.member? "definitions" = none ↔ ∀ n ∈ root.postOrder, n.objectName? = none) ∧
      Sites root dialect document p.Stands p.InPlace := by
  have hchildren := hroot.sameChildren
  have hkeys : keys document.definitions =
      (root.postOrder.filterMap Node.objectName?).eraseDups := by
    rw [definitions_generate h, schemasOf, keys_map, Node.finish_eq_postOrder hchildren,
      Node.keys_foldl_keepFirst]
  have habsent : document.member? "definitions" = none ↔ document.definitions = [] := by
    obtain ⟨hk, -, hdocument⟩ := generate_eq h
    rw [definitions_generate h, hdocument]
    exact Json.member?_definitions_document_eq_none_iff _ _ hk
  refine ⟨hkeys, ?_, (sites_generate h).imp (fun n hn k hk => ?_) fun n hn _ _ k hk => ?_⟩
  · have hnil : document.definitions = [] ↔ keys document.definitions = [] :=
      List.map_eq_nil_iff.symm
    rw [habsent, hnil, hkeys, ← List.filterMap_eq_nil_iff]
    cases root.postOrder.filterMap Node.objectName? <;> simp [List.eraseDups_cons]
  · rw [hk]
    exact stands_site (converts_of_generate hroot h hn)
  · rw [hk]
    exact inPlace_body (converts_of_generate hroot h hn)

/-- An object of type `Address`. -/
def address : Node := (Node.ofKind .object).withTypeName "Address" |>.field "city" (.ofKind .string)

/-- An object of type `Resident`, with an address. -/
def resident : Node := (Node.ofKind .object).withTypeName "Resident" |>.field "home" address

/-- An object of type `Household`, with a resident and a list of further ones. -/
def household : Node :=
  (Node.ofKind .object).withTypeName "Household" |>.field "head" resident
    |>.field "others" ((Node.ofKind .array).child resident)

theorem household_consistent : household.Consistent := by
  have hobject : ∀ e ∈ household.reachable [], ∀ name, e.2.typeName = some name →
      e.2.named "" = if name = "Address" then address else
        if name = "Resident" then resident else household := by
    rw [show household.reachable [] = [([], household),
      ([.property "head"], resident.named "head"),
      ([.property "head", .property "home"], address.named "home"),
      ([.property "head", .property "home", .property "city"], (Node.ofKind .string).named "city"),
      ([.property "others"], ((Node.ofKind .array).child resident).named "others"),
      ([.property "others", .items], resident),
      ([.property "others", .items, .property "home"], address.named "home"),
      ([.property "others", .items, .property "home", .property "city"],
        (Node.ofKind .string).named "city")] from rfl]
    simp only [List.forall_mem_cons]
    refine ⟨?_, ?_, ?_, ?_, ?_, ?_, ?_, ?_, by simp⟩ <;> exact fun _ h => by cases h <;> rfl
  intro e he e' he' _ _ name h h'
  rw [hobject e he name h, hobject e' he' name h']

/-- The types come in the order in which their objects are finished. -/
theorem household_collected :
    ∃ document, (swagger2.generator true none).generate household = .ok document ∧
      keys document.definitions = ["Address", "Resident", "Household"] ∧
      Sites household none document swagger2.Stands swagger2.InPlace := by
  obtain ⟨document, h⟩ : ∃ document,
      (swagger2.generator true none).generate household = .ok document := ⟨_, rfl⟩
  obtain ⟨hkeys, -, hsites⟩ := named_types_are_collected household_consistent h
  exact ⟨document, h, hkeys.trans (by decide), hsites⟩

/-- An object of a named type and without properties. -/
def namedRoot : Node := (Node.ofKind .object).withTypeName "T"

/-- At the root of a document a named object is more than a reference. -/
theorem namedRoot_is_more_than_reference :
    namedRoot.Consistent ∧ namedRoot.objectName? = some "T" ∧
      ∃ document, (swagger2.generator true none).generate namedRoot = .ok document ∧
        ([], document) ∈ document.positions [] ∧
        document ≠ .object (Keywords.reference "T") := by
  refine ⟨?_, rfl, _, rfl, List.mem_cons_self, ?_⟩
  · intro e he e' he' _ _ _ _ _
    rw [List.mem_singleton.1 he, List.mem_singleton.1 he']
  · intro h
    cases h

end Profile

end SchemaTree
