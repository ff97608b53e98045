import SchemaTree.Proofs.NamedTypes

/-!
# Null and shared definitions

Whether a property may be missing belongs to the place where its object is used, but the type that
says so is written into the definition, and that is made once, for the object that is finished
first. So a reference leads to the right type exactly where an object is used as the first one is.

* `Node.AlikeUses`: objects of one type that differ in no more than their use;
* `Profile.objectType`: the type that an object has where it is used;
* `Profile.LeadsToFirst`: what a reference to an object leads to;
* **`Profile.nullability_of_first_use`**.
-/

namespace SchemaTree

open OrderedMap

namespace Node

/-- Objects of one type name that a conversion can meet are equal apart from their own names and
from whether they may be missing. -/
def AlikeUses (root : Node) : Prop :=
  ∀ m ∈ root.postOrder, ∀ m' ∈ root.postOrder, ∀ name, m.objectName? = some name →
    m'.objectName? = some name → (m.named "").optional = (m'.named "").optional

theorem AlikeUses.sameChildren {root : Node} (hroot : root.AlikeUses) : root.SameChildren := by
  intro m hm m' hm' name hname hname'
  have hsame := congrArg children (hroot m hm m' hm' name hname hname')
  exact hsame

theorem exists_firstNamed? {root n : Node} {name : String} (hn : n ∈ root.postOrder)
    (hname : n.objectName? = some name) : ∃ first, firstNamed? root.postOrder name = some first := by
  refine Option.isSome_iff_exists.1 (List.find?_isSome.2 ⟨n, hn, ?_⟩)
  simp [hname]

theorem objectName?_of_firstNamed? {ns : List Node} {name : String} {n : Node}
    (h : firstNamed? ns name = some n) : n.objectName? = some name := by
  simpa using List.find?_some h

end Node

namespace Profile

variable {p : Profile} {root n : Node} {dialect : Option String} {document : Json}

/-! ## Types of objects -/

/-- The type of an object, with null beside it if the object may be missing. -/
def objectType (n : Node) : Json :=
  if n.isRequired then .string "object" else .array [.string "object", .string "null"]

theorem objectType_inj {n n' : Node} : objectType n = objectType n' ↔ n.isRequired = n'.isRequired := by
  unfold objectType
  cases n.isRequired <;> cases n'.isRequired <;> simp

theorem type_of_draft4_body (hn : n.kind = .object) :
    get? (draft4.body n) "type" = some (objectType n) := by
  have hconverts : draft4.converts n.kind = true := by
    rw [hn]
    rfl
  have htype : draft4.typeValue n = objectType n := by
    unfold typeValue objectType
    rw [hn]
    cases n.isRequired <;> rfl
  rw [(inPlace_body hconverts).type, htype]

/-! ## References -/

/-- The keywords of the definition that keywords refer to. -/
def followed (document : Json) (k : Keywords) : Option Keywords :=
  (get? k "$ref").bind (Json.definitionOf document.definitions)

theorem followed_site (hroot : root.SameChildren)
    (h : (p.generator true dialect).generate root = .ok document) {name : String} {first : Node}
    (hn : n.objectName? = some name)
    (hfirst : Node.firstNamed? root.postOrder name = some first) :
    followed document (p.site n) = some (p.body first) := by
  have hdefinition : get? document.definitions name = some (.object (p.body first)) := by
    rw [definitions_generate h, schemasOf, get?_map, Node.finish_eq_postOrder hroot,
      Node.get?_foldl_keepFirst, hfirst, Option.map_some]
  rw [site_of_some hn, followed, Keywords.reference, get?, if_pos rfl, Option.bind_some]
  exact Json.definitionOf_pointer hdefinition

/-- What stands for an object of a named type leads to a schema with the type of the first object of
that name in post-order. It is the type of the object itself exactly if both are used alike. -/
def LeadsToFirst (root : Node) (document : Json) (n : Node) (k : Keywords) : Prop :=
  ∀ name, n.objectName? = some name →
    ∃ first schema, Node.firstNamed? root.postOrder name = some first ∧
      followed document k = some schema ∧ get? schema "type" = some (objectType first) ∧
      (get? schema "type" = some (objectType n) ↔ n.isRequired = first.isRequired)

/-- **Null is where it was for the first use.** In a draft-04 document of a tree whose objects of
one type differ in no more than their use, every reference leads to a schema with the type of the
object that was finished first. That is right for an object exactly if both may be missing or both
may not. -/
theorem nullability_of_first_use (hroot : root.AlikeUses)
    (h : (draft4.generator true dialect).generate root = .ok document) :
    Sites root dialect document (LeadsToFirst root document)
      fun n k => get? k "type" = some (objectType n) := by
  have hchildren := hroot.sameChildren
  have htype {m : Node} {name : String} (hname : m.objectName? = some name) :
      get? (draft4.body m) "type" = some (objectType m) :=
    type_of_draft4_body (Node.objectName?_eq_some_iff.1 hname).1
  refine (sites_generate h).imp (fun n hn k hk name hname => ?_)
    fun n hn name hname k hk => ?_
  · obtain ⟨first, hfirst⟩ := Node.exists_firstNamed? hn hname
    have hschema := htype (Node.objectName?_of_firstNamed? hfirst)
    refine ⟨first, draft4.body first, hfirst, ?_, hschema, ?_⟩
    · rw [hk]
      exact followed_site hchildren h hname hfirst
    · rw [hschema, Option.some_inj, objectType_inj]
      exact eq_comm
  · rw [hk]
    exact htype hname

/-- An object with two addresses, of which the second may be missing. -/
def delivery : Node :=
  (Node.ofKind .object).field "billing" address |>.field "shipping" address.optional

theorem delivery_alikeUses : delivery.AlikeUses := by
  have hobject : ∀ m ∈ delivery.postOrder, ∀ name, m.objectName? = some name →
      (m.named "").optional = address.optional := by
    rw [show delivery.postOrder = [(Node.ofKind .string).named "city", address.named "billing",
      (Node.ofKind .string).named "city", address.optional.named "shipping", delivery] from rfl]
    simp only [List.forall_mem_cons]
    refine ⟨?_, ?_, ?_, ?_, ?_, by simp⟩ <;> exact fun _ h => by cases h <;> rfl
  intro m hm m' hm' name hname hname'
  rw [hobject m hm name hname, hobject m' hm' name hname']

/-- Both references lead to the type of the first address. -/
theorem delivery_leads_to_billing :
    ∃ document, (draft4.generator true none).generate delivery = .ok document ∧
      Sites delivery none document (LeadsToFirst delivery document)
        fun n k => get? k "type" = some (objectType n) := by
  obtain ⟨document, h⟩ : ∃ document,
      (draft4.generator true none).generate delivery = .ok document := ⟨_, rfl⟩
  exact ⟨document, h, nullability_of_first_use delivery_alikeUses h⟩

/-- The address that may be missing is written without null. -/
theorem shipping_without_null :
    delivery.AlikeUses ∧ ∃ document n k,
      (draft4.generator true none).generate delivery = .ok document ∧
      delivery.nodeAt? [.property "shipping"] = some n ∧ n.objectName? = some "Address" ∧
      n.isRequired = false ∧ ([.property "shipping"], .object k) ∈ document.positions [] ∧
      (followed document k).bind (get? · "type") = some (.string "object") := by
  exact ⟨delivery_alikeUses, _, _, Keywords.reference "Address", rfl, rfl, rfl, rfl,
    List.mem_of_getElem? (i := 2) rfl, rfl⟩

end Profile

end SchemaTree
