import SchemaTree.Proofs.Closed
import SchemaTree.Proofs.Completion

/-!
# What is written with definitions

With definitions, every named object is written as a reference and every other node in place; the
definitions are the objects that were finished first, in the order of finishing.

* `Profile.site`, `Profile.body`: what stands for a node, and what its definition says;
* `Profile.definitionsOf`: the definitions of finished objects;
* **`Profile.resolve_writes`**: resolving a node writes its site and finishes its objects;
* **`Profile.generate_eq`**: the document of a tree.
-/

namespace SchemaTree

open OrderedMap

namespace Profile

/-! ## Keywords with references -/

mutual

/-- The keywords of a node, with a reference in the place of every named object below it. -/
def body (p : Profile) : Node → Keywords
  | .mk a children =>
    p.assemble (.mk a children)
      (if a.kind.isObject then sites p children
      else if a.kind.isArray then (sites p children).take 1
      else [])

/-- What stands for the nodes of a list. -/
def sites (p : Profile) : List Node → List (Option Keywords)
  | [] => []
  | c :: cs =>
    some (match c.objectName? with
      | none => body p c
      | some name => Keywords.reference name) :: sites p cs

end

/-- What stands for a node: a reference for a named object, and else its own keywords. -/
def site (p : Profile) (n : Node) : Keywords :=
  match n.objectName? with
  | none => p.body n
  | some name => Keywords.reference name

variable {p : Profile} {n : Node} {name : String}

theorem site_of_none (h : n.objectName? = none) : p.site n = p.body n := by
  simp [site, h]

theorem site_of_some (h : n.objectName? = some name) : p.site n = Keywords.reference name := by
  simp [site, h]

theorem sites_eq_map (p : Profile) (cs : List Node) : sites p cs = cs.map fun c => some (p.site c) := by
  induction cs with
  | nil => rfl
  | cons c cs ih => rw [sites, ih, List.map_cons, site]

theorem body_eq (p : Profile) (n : Node) :
    p.body n = p.assemble n (n.parts.map fun e => some (p.site e.2)) := by
  obtain ⟨a, children⟩ := n
  rw [body, Node.parts, Node.kind, Node.attributes, sites_eq_map]
  congr 1
  split_ifs
  · rw [List.map_map]
    rfl
  · rw [Node.item?, Node.children]
    cases children <;> rfl
  · rfl

/-! ## Definitions of finished objects -/

/-- The definitions of finished objects. -/
def definitionsOf (p : Profile) (F : Node.Finished) : Definitions :=
  F.map (Prod.map id fun n => some (p.body n))

theorem definitionsOf_insertIfNew (p : Profile) (F : Node.Finished) (name : String) (n : Node) :
    p.definitionsOf (insertIfNew F name n) =
      insertIfNew (p.definitionsOf F) name (some (p.body n)) :=
  map_insertIfNew _ F name n

theorem contains_definitionsOf (p : Profile) (F : Node.Finished) (name : String) :
    contains (p.definitionsOf F) name = contains F name := by
  rw [contains, definitionsOf, get?_map, Option.isSome_map, contains]

theorem emitReference_of_finished {s : Progress} {F : Node.Finished}
    (hs : s.definitions = p.definitionsOf F) (h : contains F name = true) :
    Generator.emitReference name s =
      (.ok (some (Keywords.reference name)), s.report (.emittingReference name s.path)) := by
  obtain ⟨n, hn⟩ := Option.isSome_iff_exists.1 h
  have hdefinition : s.definition? name = some (p.body n) := by
    rw [Progress.definition?, hs, definitionsOf, get?_map, hn]
    rfl
  rw [Generator.emitReference, hdefinition]

theorem mem_keys_iff_isDefined {s : Progress} {F : Node.Finished}
    (hs : s.definitions = p.definitionsOf F) : name ∈ keys F ↔ s.isDefined name = true := by
  rw [mem_keys_iff, ← contains_definitionsOf p, ← hs]
  rfl

/-- Defining an object finishes it, unless its parts have finished one of its name. -/
theorem definitions_define {s : Progress} {F : Node.Finished}
    (hs : s.definitions = p.definitionsOf F) (name : String) (n : Node) (path : Path) :
    ((s.report (.cachingDefinition name path)).define name (some (p.body n))).definitions =
      p.definitionsOf (insertIfNew F name n) := by
  rw [definitionsOf_insertIfNew, ← hs]
  rfl

/-! ## Resolving -/

variable {dialect : Option String}

theorem sharedName?_generator (p : Profile) (dialect : Option String) (n : Node) :
    (p.generator true dialect).sharedName? n = n.objectName? := rfl

/-- From the definitions of some finished objects on, a result of the computation is `value`, and
then the objects are finished that `finished` says. -/
def Writes {σ α : Type} (p : Profile) (value : σ → α)
    (finished : Node.Finished → σ → Node.Finished) : Postcondition σ α := fun a s r =>
  ∀ F, s.definitions = p.definitionsOf F → ∀ v, r.1 = .ok v →
    v = value a ∧ r.2.definitions = p.definitionsOf (finished F a)

theorem inductive_writes (p : Profile) (dialect : Option String) :
    p.Inductive true dialect
      (p.Writes (fun n => some (p.site n)) Node.finish)
      (p.Writes (fun n => some (p.body n)) fun F n => Node.finishParts F n.parts)
      (p.Writes (fun parts => parts.map fun e => some (p.site e.2)) Node.finishParts) where
  unregistered n s _ F _ v hv := by cases hv
  failed n s e t _ _ F _ v hv := by cases hv
  assembled n s ks t _ h F hs v hv := by
    cases hv
    obtain ⟨rfl, ht⟩ := h F hs ks rfl
    exact ⟨congrArg some (body_eq p n).symm, ht⟩
  inlined n s r hname h F hs v hv := by
    rw [sharedName?_generator] at hname
    obtain ⟨rfl, ht⟩ := h F hs v hv
    refine ⟨congrArg some (site_of_none hname).symm, ht.trans ?_⟩
    rw [Node.finish_of_none hname]
  known n s name hname hdefined F hs v hv := by
    rw [sharedName?_generator] at hname
    have hfinished : name ∈ keys F := (mem_keys_iff_isDefined hs).2 hdefined
    rw [emitReference_of_finished hs ((mem_keys_iff F name).1 hfinished)] at hv ⊢
    cases hv
    refine ⟨congrArg some (site_of_some hname).symm, hs.trans ?_⟩
    rw [Node.finish_of_finished hname hfinished]
  broken n s name e t _ _ _ F _ v hv := by cases hv
  defined n s name k t hname hnew h F hs v hv := by
    rw [sharedName?_generator] at hname
    obtain ⟨rfl, ht⟩ := h F hs k rfl
    -- The parts may have finished an object of the same name, and then that one keeps it.
    have hunfinished : name ∉ keys F := by
      rw [mem_keys_iff_isDefined hs, hnew]
      decide
    have hdefine := definitions_define ht name n t.path
    rw [emitReference_of_finished hdefine (contains_insertIfNew _ _ _)] at hv ⊢
    cases hv
    refine ⟨congrArg some (site_of_some hname).symm, hdefine.trans ?_⟩
    rw [Node.finish_of_unfinished hname hunfinished]
  nil s F hs v hv := by
    cases hv
    exact ⟨rfl, hs⟩
  partFailed segment c parts s e t _ F _ v hv := by cases hv
  partResolved segment c parts s k t r u h hrest F hs v hv := by
    obtain ⟨rfl, ht⟩ := h F hs k rfl
    cases r with
    | error e => cases hv
    | ok ks =>
      cases hv
      obtain ⟨rfl, hu⟩ := hrest (Node.finish F c) (by simpa using ht) ks rfl
      exact ⟨rfl, hu⟩

/-- **A node that is resolved is written as its site, and its objects are finished.** -/
theorem resolve_writes (p : Profile) (dialect : Option String) (n : Node) (s : Progress) :
    p.Writes (fun n => some (p.site n)) Node.finish n s ((p.generator true dialect).resolve n s) :=
  resolve_induction (inductive_writes p dialect) n s

/-! ## Documents -/

/-- The definitions of finished objects, as schemas. -/
def schemasOf (p : Profile) (F : Node.Finished) : OrderedMap String Json :=
  F.map (Prod.map id fun n => .object (p.body n))

theorem schemas_definitionsOf (p : Profile) (F : Node.Finished) :
    (p.definitionsOf F).schemas = p.schemasOf F := by
  rw [Definitions.schemas, definitionsOf, List.map_map]
  rfl

/-- **The document of a tree is the site of its root, the definitions of the finished objects and
the dialect.** -/
theorem generate_eq {root : Node} {document : Json}
    (h : (p.generator true dialect).generate root = .ok document) :
    Rootable (p.site root) ∧ (keys (Node.finish [] root)).Nodup ∧
      document = .object (p.site root ++ definitionsEntry (p.schemasOf (Node.finish [] root)) ++
        dialectEntry dialect) := by
  obtain ⟨k, t, hrun, hroot, -, hordered, rfl⟩ := generate_ordered h
  have hwrites := p.resolve_writes dialect root {} [] rfl (some k)
  rw [← Generator.run, hrun] at hwrites
  obtain ⟨hk, ht⟩ := hwrites rfl
  cases hk
  have hnodup := hordered.nodup
  rw [ht, definitionsOf, keys_map] at hnodup
  rw [ht, schemas_definitionsOf]
  exact ⟨hroot, hnodup, rfl⟩

theorem definitions_generate {root : Node} {document : Json}
    (h : (p.generator true dialect).generate root = .ok document) :
    document.definitions = p.schemasOf (Node.finish [] root) := by
  obtain ⟨hroot, -, rfl⟩ := generate_eq h
  exact Json.definitions_document _ _ hroot

end Profile

end SchemaTree
