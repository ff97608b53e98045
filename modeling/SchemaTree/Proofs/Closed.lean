import SchemaTree.Proofs.Definitions
import SchemaTree.Proofs.Document
import SchemaTree.Proofs.Fragment
import Mathlib.Logic.Relation

/-!
# References of a document

A definition is added when the conversion of its node has ended, so what it refers to has been
added before. An object inside another of the same name gets the name first; the keywords of the
outer one are then thrown away, and with them the reference that would close a circle.

* `Definitions.Covers`: all references of some keywords name definitions;
* `Definitions.Ordered`: the references of every definition name earlier ones;
* **`Profile.resolve_ordered`**: resolving keeps the definitions in this order;
* `Definitions.references_expand`: expanding leaves no reference;
* `Ordered.exists_lt`, `Ordered.not_transGen`, `Ordered.references_dereference`;
* **`Profile.references_closed_and_acyclic`**.
-/

namespace SchemaTree

open OrderedMap

namespace Definitions

variable {D D' : Definitions} {k : Keywords}

/-- All references of the keywords name definitions. -/
def Covers (D : Definitions) (k : Keywords) : Prop :=
  ∀ r ∈ Json.references (.object k), ∃ name ∈ keys D, r = .string (Keywords.definitionPointer name)

/-- Each definition was new, and all its references name definitions before it. -/
def Ordered : Definitions → Prop := Built fun D _ k => D.Covers k

theorem Covers.mono (h : D.Covers k) (hD : D <+: D') : D'.Covers k := by
  intro r hr
  obtain ⟨name, hname, rfl⟩ := h r hr
  exact ⟨name, (hD.map Prod.fst).subset hname, rfl⟩

theorem covers_reference {name : String} (h : name ∈ keys D) :
    D.Covers (Keywords.reference name) := by
  intro r hr
  rw [Profile.references_ofDefinition, List.mem_singleton] at hr
  exact ⟨name, h, hr⟩

theorem covers_assemble {p : Profile} {n : Node} {ks : List (Option Keywords)}
    (h : ∀ k, some k ∈ ks → D.Covers k) :
    D.Covers (p.assemble n ks) := by
  intro r hr
  obtain ⟨k, hk, hr⟩ := Profile.mem_references_assemble hr
  exact h k hk r hr

/-- **Where definitions only refer to earlier ones, following references ends.** Keywords that refer
to at most `depth` definitions are expanded completely at that depth. -/
theorem references_expand (hD : D.Ordered) (depth : Nat) :
    ∀ {D' : Definitions} {k : Keywords}, D' <+: D → D'.length ≤ depth → D'.Covers k →
      Json.references (.object (Json.expand D.schemas depth k)) = [] := by
  induction depth with
  | zero =>
    intro D' k _ hlength hk
    rw [List.eq_nil_of_length_eq_zero (Nat.le_zero.1 hlength)] at hk
    rw [Json.expand, List.eq_nil_iff_forall_not_mem]
    intro r hr
    obtain ⟨name, hname, -⟩ := hk r hr
    cases hname
  | succ depth ih =>
    intro D' k hlater hlength hk
    refine Json.references_replaceReferences _ (.object k) fun r hr => ?_
    obtain ⟨name, hname, rfl⟩ := hk r hr
    obtain ⟨k', D'', hget, hD'', hlt, hk'⟩ := (hD.isPrefix hlater).exists_of_mem hname
    refine ⟨Json.expand D.schemas depth k', ?_, ih (hD''.trans hlater) (by omega) hk'⟩
    rw [Json.definitionOf_pointer (get?_schemas_of_isPrefix hlater hget), Option.map_some]

end Definitions

/-! ## Resolving -/

namespace Profile

open Definitions

variable {p : Profile} {dialect : Option String}

/-- The result is keywords that could be those of a root and refer to definitions only. -/
def Refers (D : Definitions) (o : Option Keywords) : Prop :=
  ∃ k, o = some k ∧ Rootable k ∧ D.Covers k

theorem Refers.mono {D D' : Definitions} {o : Option Keywords} (h : Refers D o) (hD : D <+: D') :
    Refers D' o := by
  obtain ⟨k, rfl, hroot, hk⟩ := h
  exact ⟨k, rfl, hroot, hk.mono hD⟩

/-- The computation only adds definitions, keeps them in order, and its result satisfies `good`
together with them. -/
def KeepsOrder {σ α : Type} (good : Definitions → α → Prop) : Postcondition σ α := fun _ s r =>
  s.definitions.Ordered →
    s.definitions <+: r.2.definitions ∧ r.2.definitions.Ordered ∧
      ∀ a, r.1 = .ok a → good r.2.definitions a

theorem keepsOrder_emitReference {n : Node} {s t : Progress} {name : String}
    (h : s.definitions.Ordered → s.definitions <+: t.definitions ∧ t.definitions.Ordered ∧
      name ∈ keys t.definitions) :
    KeepsOrder Refers n s (Generator.emitReference name t) := by
  intro hs
  obtain ⟨hlater, ht, hname⟩ := h hs
  rw [ht.emitReference hname]
  refine ⟨hlater, ht, fun o ho => ?_⟩
  cases ho
  exact ⟨_, rfl, rootable_reference name, covers_reference hname⟩

theorem inductive_keepsOrder (p : Profile) (dialect : Option String) :
    p.Inductive true dialect (KeepsOrder Refers) (KeepsOrder Refers)
      (KeepsOrder fun D ks => ∀ o ∈ ks, Refers D o) where
  unregistered n s _ hs := ⟨List.prefix_refl _, hs, fun _ h => by cases h⟩
  failed n s e t _ h hs := by
    obtain ⟨hlater, ht, -⟩ := h hs
    exact ⟨hlater, ht, fun _ h => by cases h⟩
  assembled n s ks t hn h hs := by
    obtain ⟨hlater, ht, hks⟩ := h hs
    refine ⟨hlater, ht, fun o ho => ?_⟩
    cases ho
    refine ⟨_, rfl, rootable_assemble hn ks, covers_assemble fun k hk => ?_⟩
    obtain ⟨k', hk', -, hcovers⟩ := hks ks rfl _ hk
    cases hk'
    exact hcovers
  inlined n s r _ h := h
  known n s name _ hname := keepsOrder_emitReference fun hs =>
    ⟨List.prefix_refl _, hs, (mem_keys_iff _ _).2 hname⟩
  broken n s name e t _ _ h := h
  -- An inner object may have taken the name in the meantime; the definition is then the inner one.
  defined n s name o t _ _ h := keepsOrder_emitReference fun hs => by
    obtain ⟨hlater, ht, ho⟩ := h hs
    obtain ⟨k, rfl, -, hk⟩ := ho o rfl
    obtain ⟨hlater', ht', hname⟩ :=
      Built.define (s := t.report (.cachingDefinition name t.path)) ht fun _ => hk
    exact ⟨hlater.trans hlater', ht', hname⟩
  nil s hs := ⟨List.prefix_refl _, hs, fun ks hks => by cases hks; simp⟩
  partFailed segment c parts s e t h hs := by
    obtain ⟨hlater, ht, -⟩ := h hs
    exact ⟨hlater, ht, fun _ h => by cases h⟩
  partResolved segment c parts s o t r u h hrest hs := by
    obtain ⟨hlater, ht, ho⟩ := h hs
    simp only [KeepsOrder, Progress.definitions_noteResult, Progress.definitions_leave] at hrest
    obtain ⟨hlater', hu, hks⟩ := hrest ht
    refine ⟨hlater.trans hlater', hu, fun ks hks' => ?_⟩
    cases r with
    | error e => cases hks'
    | ok ks =>
      cases hks'
      exact List.forall_mem_cons.2 ⟨(ho o rfl).mono hlater', hks ks rfl⟩

/-- **Resolving a node adds definitions, each of which refers to earlier ones only, and gives
keywords that refer to definitions.** -/
theorem resolve_ordered (p : Profile) (dialect : Option String) (n : Node) (s : Progress) :
    KeepsOrder Refers n s ((p.generator true dialect).resolve n s) :=
  resolve_induction (inductive_keepsOrder p dialect) n s

theorem generate_ordered {root : Node} {document : Json}
    (h : (p.generator true dialect).generate root = .ok document) :
    ∃ k t, (p.generator true dialect).run root = (.ok (some k), t) ∧
      Rootable k ∧ t.definitions.Covers k ∧ t.definitions.Ordered ∧
      document =
        .object (k ++ definitionsEntry t.definitions.schemas ++ dialectEntry dialect) := by
  have hresolve := p.resolve_ordered dialect root {} .nil
  rw [Generator.generate, Generator.run] at h
  rw [Generator.run]
  rcases hr : (p.generator true dialect).resolve root {} with ⟨e | o, t⟩
  · rw [hr] at h
    cases h
  · rw [hr] at h hresolve
    obtain ⟨-, ht, ho⟩ := hresolve
    obtain ⟨k, rfl, hroot, hk⟩ := ho o rfl
    refine ⟨k, t, rfl, hroot, hk, ht, ?_⟩
    rw [← ht.sharedSchemas, ← document_eq p true dialect hroot]
    exact (Except.ok.inj h).symm

end Profile

/-! ## Documents -/

/-- One definition refers to another. -/
def RefersTo (defs : OrderedMap String Json) (name name' : String) : Prop :=
  ∃ v, (name, v) ∈ defs ∧ Json.string (Keywords.definitionPointer name') ∈ v.references

namespace Definitions

variable {D : Definitions}

theorem Ordered.exists_lt (hD : D.Ordered) {i : Nat} {name : String} {v r : Json}
    (hv : D.schemas[i]? = some (name, v)) (hr : r ∈ v.references) :
    ∃ j < i, ∃ name', (keys D.schemas)[j]? = some name' ∧
      r = .string (Keywords.definitionPointer name') := by
  rw [schemas, List.getElem?_map, Option.map_eq_some_iff] at hv
  obtain ⟨⟨_, o⟩, he, hv⟩ := hv
  cases hv
  obtain ⟨k, rfl, hcovers⟩ := Built.getElem? hD he
  obtain ⟨name', hname', rfl⟩ := hcovers r hr
  obtain ⟨j, hj⟩ := List.mem_iff_getElem?.1 hname'
  rw [keys, List.map_take, List.getElem?_take] at hj
  split_ifs at hj with hlt
  rw [keys_schemas]
  exact ⟨j, hlt, name', hj, rfl⟩

theorem Ordered.idxOf_lt (hD : D.Ordered) {name name' : String}
    (h : RefersTo D.schemas name name') :
    (keys D.schemas).idxOf name' < (keys D.schemas).idxOf name := by
  have hidx {i : Nat} {a : String} (hi : (keys D.schemas)[i]? = some a) :
      (keys D.schemas).idxOf a = i := by
    obtain ⟨hlt, rfl⟩ := List.getElem?_eq_some_iff.1 hi
    refine List.Nodup.idxOf_getElem ?_ i hlt
    rw [keys_schemas]
    exact Built.nodup hD
  obtain ⟨v, hv, hr⟩ := h
  obtain ⟨i, hi⟩ := List.mem_iff_getElem?.1 hv
  obtain ⟨j, hj, name'', hname, hpointer⟩ := hD.exists_lt hi hr
  rw [Json.string.injEq] at hpointer
  obtain rfl := Keywords.definitionPointer_injective hpointer
  have hi' : (keys D.schemas)[i]? = some name := by
    rw [keys, List.getElem?_map, hi, Option.map_some]
  rw [hidx hname, hidx hi']
  exact hj

/-- No definition refers to itself, directly or through others: the place gets smaller with every
step along references. -/
theorem Ordered.not_transGen (hD : D.Ordered) (name : String) :
    ¬ Relation.TransGen (RefersTo D.schemas) name name := by
  have hlt : ∀ {a b}, Relation.TransGen (RefersTo D.schemas) a b →
      (keys D.schemas).idxOf b < (keys D.schemas).idxOf a := by
    intro a b hab
    induction hab with
    | single h => exact hD.idxOf_lt h
    | tail _ h ih => exact Nat.lt_trans (hD.idxOf_lt h) ih
  exact fun hname => Nat.lt_irrefl _ (hlt hname)

theorem Ordered.references_dereference (hD : D.Ordered) {k : Keywords} (hroot : Rootable k)
    (hk : D.Covers k) (dialect : Option String) :
    (Json.dereference (.object
      (k ++ definitionsEntry D.schemas ++ dialectEntry dialect))).references = [] := by
  have hnil := references_expand hD D.length (List.prefix_refl _) (Nat.le_refl _) hk
  rw [Json.dereference_document _ _ hroot, List.eq_nil_iff_forall_not_mem]
  intro r hr
  rw [Json.references_append_of_plain (Json.plain_dialectEntry dialect)] at hr
  have hr' := Json.mem_references_of_erase hr
  rw [length_schemas, hnil] at hr'
  cases hr'

end Definitions

namespace Profile

open Definitions

variable {p : Profile} {dialect : Option String}

/-- **References are closed and acyclic.** In a document with definitions, every reference at the
positions of the root or of a definition names a definition, and one in a definition names an
earlier definition. So no definition refers to itself, directly or through others, and
dereferencing leaves no reference. -/
theorem references_closed_and_acyclic {root : Node} {document : Json}
    (h : (p.generator true dialect).generate root = .ok document) :
    (∀ r ∈ document.references ++ document.definitions.flatMap fun e => e.2.references,
      ∃ name ∈ keys document.definitions, r = .string (Keywords.definitionPointer name)) ∧
    (keys document.definitions).Nodup ∧
    (∀ (i : Nat) (name : String) (v : Json), document.definitions[i]? = some (name, v) →
      ∀ r ∈ v.references, ∃ j < i, ∃ name', (keys document.definitions)[j]? = some name' ∧
        r = .string (Keywords.definitionPointer name')) ∧
    (∀ name, ¬ Relation.TransGen (RefersTo document.definitions) name name) ∧
    document.dereference.references = [] := by
  obtain ⟨k, t, -, hroot, hk, ht, rfl⟩ := generate_ordered h
  rw [Json.definitions_document _ _ hroot]
  refine ⟨fun r hr => ?_, ?_, fun i name v hv r hr => ht.exists_lt hv hr, ht.not_transGen,
    ht.references_dereference hroot hk dialect⟩
  · rcases List.mem_append.1 hr with hr | hr
    · rw [keys_schemas]
      exact hk r ((Json.mem_references_document _ _).1 hr)
    · obtain ⟨⟨name, v⟩, he, hr⟩ := List.mem_flatMap.1 hr
      obtain ⟨i, hi⟩ := List.mem_iff_getElem?.1 he
      obtain ⟨j, -, name', hname', rfl⟩ := ht.exists_lt hi hr
      exact ⟨name', List.mem_of_getElem? hname', rfl⟩
  · rw [keys_schemas]
    exact Built.nodup ht

/-- An object of type `T` that holds another object of that name, and a second type that holds one
as well. -/
def nestedNames : Node :=
  let object (typeName : String) := (Node.ofKind .object).withTypeName typeName
  (object "T").field "inner" ((object "T").field "leaf" (.ofKind .string))
    |>.field "other" ((object "U").field "again" (object "T"))

/-- The inner object has the name, and the outer one does not refer to itself. -/
theorem nestedNames_acyclic :
    ∃ document, (swagger2.generator true none).generate nestedNames = .ok document ∧
      keys document.definitions = ["T", "U"] ∧ RefersTo document.definitions "U" "T" ∧
      ¬ Relation.TransGen (RefersTo document.definitions) "T" "T" ∧
      document.dereference.references = [] := by
  obtain ⟨document, h⟩ : ∃ document,
      (swagger2.generator true none).generate nestedNames = .ok document := ⟨_, rfl⟩
  obtain ⟨-, -, -, hacyclic, hreferences⟩ := references_closed_and_acyclic h
  refine ⟨document, h, ?_, ?_, hacyclic "T", hreferences⟩
  · cases h
    rfl
  · cases h
    exact ⟨_, List.mem_of_getElem? (i := 1) rfl, List.mem_singleton.2 rfl⟩

end Profile

end SchemaTree
