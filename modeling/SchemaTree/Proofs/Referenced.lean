import SchemaTree.Proofs.Extraction

/-!
# Definitions are referenced

A definition is made when its object is met, and there a reference to it is written. The reference
is lost only where the keywords around it are thrown away: behind a property of the same name, or
inside an object of a type that has been finished within. Where neither happens, references lead
from the root of a document to all its definitions.

* `Node.Unnested`: no object has another one of its type name below it;
* `LeadsTo`: a definition is reached along references;
* `Profile.mem_references_body`: the references of a well-formed node;
* `Profile.leadsToNew_finish`: finished objects are led to from the site of a node;
* **`Profile.definitions_are_referenced`**.
-/

namespace SchemaTree

open OrderedMap

/-- No object of a named type has another one of that name below it. -/
def Node.Unnested (root : Node) : Prop :=
  ∀ m ∈ root.subtrees, ∀ d ∈ m.children.flatMap subtrees, ∀ name ∈ m.objectName?,
    d.objectName? ≠ some name

instance (root : Node) : Decidable root.Unnested := by
  unfold Node.Unnested
  infer_instance

theorem Node.Unnested.of_mem_children {n c : Node} (h : n.Unnested) (hc : c ∈ n.children) :
    c.Unnested :=
  fun m hm => h m (mem_subtrees_of_mem_children hc hm)

/-! ## Following references -/

/-- The schema refers to a definition that is the one of `name` or refers on to it, directly or
through others. -/
def LeadsTo (defs : OrderedMap String Json) (v : Json) (name : String) : Prop :=
  ∃ first, Json.string (Keywords.definitionPointer first) ∈ v.references ∧
    Relation.ReflTransGen (RefersTo defs) first name

variable {defs : OrderedMap String Json} {v v' : Json} {name name' : String}

theorem LeadsTo.mono (h : LeadsTo defs v name) (hv : ∀ r ∈ v.references, r ∈ v'.references) :
    LeadsTo defs v' name := by
  obtain ⟨first, hfirst, hname⟩ := h
  exact ⟨first, hv _ hfirst, hname⟩

theorem pointer_mem_references (name : String) :
    Json.string (Keywords.definitionPointer name) ∈
      Json.references (.object (Keywords.reference name)) := by
  rw [Profile.references_ofDefinition]
  exact List.mem_singleton.2 rfl

theorem leadsTo_reference (defs : OrderedMap String Json) (name : String) :
    LeadsTo defs (.object (Keywords.reference name)) name :=
  ⟨name, pointer_mem_references name, .refl⟩

theorem LeadsTo.through (h : LeadsTo defs v name') (hv : (name, v) ∈ defs) :
    LeadsTo defs (.object (Keywords.reference name)) name' := by
  obtain ⟨first, hfirst, hname'⟩ := h
  exact ⟨name, pointer_mem_references name, .head ⟨v, hv, hfirst⟩ hname'⟩

namespace Profile

variable {p : Profile} {n : Node}

/-! ## Finished objects -/

theorem mem_references_body (hn : n.WellFormed) {e : Segment × Node} (he : e ∈ n.parts) {r : Json}
    (hr : r ∈ Json.references (.object (p.site e.2))) : r ∈ Json.references (.object (p.body n)) := by
  rw [body_eq, Json.references_eq, subschemas_assemble hn, List.flatMap_map]
  exact List.mem_append_right _ (List.mem_flatMap.2 ⟨e, he, hr⟩)

/-- In a document with the definitions of `G`, the schema leads to all names that are in `F'` and
not in `F`. -/
def LeadsToNew (p : Profile) (G : Node.Finished) (v : Json) (F F' : Node.Finished) : Prop :=
  ∀ name ∈ keys F', name ∈ keys F ∨ LeadsTo (p.schemasOf G) v name

variable {G F F' F'' : Node.Finished}

theorem LeadsToNew.trans (h : p.LeadsToNew G v F F') (h' : p.LeadsToNew G v F' F'') :
    p.LeadsToNew G v F F'' := by
  intro name hname
  rcases h' name hname with hname | hleads
  · exact h name hname
  · exact Or.inr hleads

theorem leadsToNew_finishParts {parts : List (Segment × Node)}
    (hv : ∀ e ∈ parts, ∀ r ∈ Json.references (.object (p.site e.2)), r ∈ v.references)
    (h : ∀ e ∈ parts, ∀ F, Node.finish F e.2 <+: G →
      p.LeadsToNew G (.object (p.site e.2)) F (Node.finish F e.2)) :
    ∀ F, Node.finishParts F parts <+: G → p.LeadsToNew G v F (Node.finishParts F parts) := by
  induction parts with
  | nil => exact fun F _ name hname => Or.inl hname
  | cons e parts ih =>
    intro F hG
    obtain ⟨hve, hvparts⟩ := List.forall_mem_cons.1 hv
    obtain ⟨he, hparts⟩ := List.forall_mem_cons.1 h
    have hlater : Node.finish F e.2 <+: Node.finishParts F (e :: parts) :=
      (Node.adds_finishParts parts (Node.finish F e.2)).isPrefix
    have hhead : p.LeadsToNew G v F (Node.finish F e.2) := fun name hname =>
      (he F (hlater.trans hG) name hname).imp_right fun hleads => hleads.mono hve
    exact hhead.trans (ih hvparts hparts _ hG)

theorem finish_of_unnested (hnested : n.Unnested) (hname : n.objectName? = some name)
    (hnew : name ∉ keys F) :
    Node.finish F n = Node.finishParts F n.parts ++ [(name, n)] := by
  have hnot : name ∉ keys (Node.finishParts F n.parts) := by
    intro hmem
    rcases (Node.adds_finishParts n.parts F).mem_keys hmem with hmem | ⟨d, hd, hdname⟩
    · exact hnew hmem
    · obtain ⟨e, he, hd⟩ := List.mem_flatMap.1 hd
      have hbelow := List.mem_flatMap.2
        ⟨e.2, Node.mem_children_of_mem_parts he, Node.mem_subtrees_of_mem_postOrder hd⟩
      exact hnested n n.self_mem_subtrees d hbelow name hname hdname
  rw [Node.finish_of_unfinished hname hnew, insertIfNew_of_not_mem hnot]

/-- **What is finished at a node is led to from the site of the node.** The induction is over the
parts; for an object that gets a name, the step to its parts goes through its definition. -/
theorem leadsToNew_finish (p : Profile) (G : Node.Finished) :
    ∀ n : Node, (∀ m ∈ n.subtrees, m.WellFormed) → n.Unnested → ∀ F, Node.finish F n <+: G →
      p.LeadsToNew G (.object (p.site n)) F (Node.finish F n) := by
  refine Node.parts_induction fun n ih hformed hnested F hG => ?_
  have hn := hformed n n.self_mem_subtrees
  have hparts : Node.finishParts F n.parts <+: G →
      p.LeadsToNew G (.object (p.body n)) F (Node.finishParts F n.parts) :=
    leadsToNew_finishParts (fun e he r hr => mem_references_body hn he hr)
      (fun e he => ih e he ((hn.forall_mem_subtrees.1 hformed).2 e he)
        (hnested.of_mem_children (Node.mem_children_of_mem_parts he))) F
  cases hname : n.objectName? with
  | none =>
    rw [Node.finish_of_none hname] at hG ⊢
    rw [site_of_none hname]
    exact hparts hG
  | some name =>
    by_cases hfinished : name ∈ keys F
    · rw [Node.finish_of_finished hname hfinished]
      exact fun name hname => Or.inl hname
    · rw [finish_of_unnested hnested hname hfinished] at hG ⊢
      rw [site_of_some hname]
      have hdefinition : (name, Json.object (p.body n)) ∈ p.schemasOf G :=
        List.mem_map.2 ⟨(name, n), hG.subset (List.mem_append_right _ (List.mem_singleton.2 rfl)), rfl⟩
      intro name' hname'
      rw [keys, List.map_append, List.mem_append] at hname'
      rcases hname' with hname' | hname'
      · exact (hparts ((List.prefix_append _ _).trans hG) name' hname').imp_right fun hleads =>
          hleads.through hdefinition
      · rw [List.mem_singleton.1 hname']
        exact Or.inr (leadsTo_reference _ name)

/-! ## Documents -/

variable {root : Node} {dialect : Option String} {document : Json}

/-- **Definitions are referenced.** For a tree that passes the check and has no object inside
another one of its type name, references lead from the root of the document to every definition. -/
theorem definitions_are_referenced (hcheck : root.check = none) (hnested : root.Unnested)
    (h : (p.generator true dialect).generate root = .ok document) :
    ∀ name ∈ keys document.definitions, LeadsTo document.definitions document name := by
  have hformed := (root.defectsBelow_eq_nil_iff []).1 (root.check_eq_none_iff.1 hcheck)
  obtain ⟨-, -, hdocument⟩ := generate_eq h
  intro name hname
  rw [definitions_generate h] at hname ⊢
  rw [schemasOf, keys_map] at hname
  rcases leadsToNew_finish p _ root hformed hnested [] (List.prefix_refl _) name hname with
    hname | hleads
  · cases hname
  · refine hleads.mono fun r hr => ?_
    rw [hdocument]
    exact (Json.mem_references_document _ _).2 hr

/-- A parcel between two parties that do not look the same, with stops on its way. -/
def parcel : Node :=
  let object (typeName : String) := (Node.ofKind .object).withTypeName typeName
  (Node.ofKind .object).field "sender" ((object "Party").field "address" (object "Address"))
    |>.field "receiver" ((object "Party").field "company" (object "Company"))
    |>.field "stops" ((Node.ofKind .array).child ((object "Stop").field "at" (object "Address")))

/-- The second party is not looked into, and all that is defined is reached. -/
theorem parcel_referenced :
    parcel.check = none ∧ parcel.Unnested ∧
      ∃ document, (swagger2.generator true none).generate parcel = .ok document ∧
        keys document.definitions = ["Address", "Party", "Stop"] ∧
        ∀ name ∈ ["Address", "Party", "Stop"], LeadsTo document.definitions document name := by
  have hcheck : parcel.check = none := rfl
  have hnested : parcel.Unnested := by decide
  obtain ⟨document, h⟩ : ∃ document,
      (swagger2.generator true none).generate parcel = .ok document := ⟨_, rfl⟩
  have hkeys : keys document.definitions = ["Address", "Party", "Stop"] := by
    cases h
    rfl
  refine ⟨hcheck, hnested, document, h, hkeys, ?_⟩
  rw [← hkeys]
  exact definitions_are_referenced hcheck hnested h

end Profile

end SchemaTree
