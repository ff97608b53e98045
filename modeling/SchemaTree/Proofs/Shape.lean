import SchemaTree.Proofs.Compositional
import SchemaTree.Proofs.Override

/-!
# The shape of documents

A schema in a document is a reference and nothing else, or it begins with its type. Only the root
has more: behind its own keywords come the definitions, if there are any, and then the dialect. What
properties are called and what users write does not matter, as neither is a keyword of a schema.

* `Shaped`, `Json.IsSubschema`, `Json.Uniform`: the shape of a schema, and of all schemas in it;
* `Profile.uniform_assemble`: assembled keywords are uniform if those of the parts are;
* `Profile.KeepsUniform`, **`Profile.resolve_uniform`**: resolving a node keeps everything uniform;
* `Node.finish_nil_ne_nil_iff`: something is finished exactly if there is a named object;
* **`Profile.documents_are_uniform`**.
-/

namespace SchemaTree

open OrderedMap

/-! ## Shapes -/

/-- Keywords that are a reference and nothing else, or begin with a type. -/
def Shaped (k : Keywords) : Prop :=
  (∃ target, k = [("$ref", .string target)]) ∨ ∃ type rest, k = ("type", type) :: rest

namespace Json

/-- A schema as it stands below the root: shaped, without definitions and without a dialect. -/
def IsSubschema (v : Json) : Prop := ∃ k, v = .object k ∧ Shaped k ∧ Rootable k

/-- All schemas in a schema, and itself, are as they stand below the root. -/
def Uniform (v : Json) : Prop := ∀ e ∈ v.positions [], e.2.IsSubschema

/-- The value without a member. -/
def without : Json → String → Json
  | .object k, key => .object (erase k key)
  | v, _ => v

variable {v : Json} {k : Keywords}

theorem isSubschema_object : IsSubschema (.object k) ↔ Shaped k ∧ Rootable k := by
  constructor
  · rintro ⟨k, ⟨⟩, h⟩
    exact h
  · exact fun h => ⟨k, rfl, h⟩

theorem uniform_of_path {path : Path} :
    (∀ e ∈ v.positions path, e.2.IsSubschema) ↔ v.Uniform := by
  have h := positions_append path v []
  rw [List.append_nil] at h
  rw [h, List.forall_mem_map]
  rfl

theorem uniform_iff : v.Uniform ↔ v.IsSubschema ∧ ∀ e ∈ v.subschemas, e.2.Uniform := by
  rw [Uniform, positions_eq, List.forall_mem_cons, List.forall_mem_flatMap]
  simp only [uniform_of_path]

theorem isSubschema_of_mem_positions (h : ∀ e ∈ v.subschemas, e.2.Uniform) {e : Path × Json}
    (he : e ∈ v.positions []) (hne : e.1 ≠ []) : e.2.IsSubschema := by
  rw [positions_eq, List.mem_cons] at he
  rcases he with rfl | he
  · exact absurd rfl hne
  · obtain ⟨d, hd, he⟩ := List.mem_flatMap.1 he
    exact uniform_of_path.2 (h d hd) e he

theorem uniform_reference (name : String) : Uniform (.object (Keywords.reference name)) := by
  refine uniform_iff.2 ⟨isSubschema_object.2 ⟨Or.inl ⟨_, rfl⟩, rootable_reference name⟩,
    fun e he => ?_⟩
  cases he

end Json

namespace Node

/-! ## Named objects -/

/-- Finishing adds something where there is a named object, and nothing is ever taken away. -/
theorem finish_ne_nil {m n : Node} (hm : m ∈ n.postOrder) (hname : m.objectName?.isSome = true) :
    ∀ F, finish F n ≠ [] := by
  induction n using parts_induction with
  | h n ih =>
    intro F
    cases hn : n.objectName? with
    | some name =>
      intro hnil
      by_cases hF : name ∈ keys F
      · rw [finish_of_finished hn hF] at hnil
        rw [hnil] at hF
        cases hF
      · have hcontains := contains_insertIfNew (finishParts F n.parts) name n
        rw [← finish_of_unfinished hn hF, hnil] at hcontains
        cases hcontains
    | none =>
      rw [postOrder_eq, List.mem_append, List.mem_singleton] at hm
      rcases hm with hm | rfl
      · obtain ⟨e, he, hm⟩ := List.mem_flatMap.1 hm
        obtain ⟨before, after, hparts⟩ := List.append_of_mem he
        have hsplit : finishParts F n.parts =
            finishParts (finish (finishParts F before) e.2) after := by
          rw [hparts, finishParts, List.foldl_append]
          rfl
        have hlater := (adds_finishParts after (finish (finishParts F before) e.2)).isPrefix
        rw [finish_of_none hn, hsplit]
        intro hnil
        rw [hnil, List.prefix_nil] at hlater
        exact ih e he hm _ hlater
      · rw [hn] at hname
        cases hname

/-- **Something is finished exactly if there is a named object.** -/
theorem finish_nil_ne_nil_iff {root : Node} :
    finish [] root ≠ [] ↔ ∃ n ∈ root.postOrder, n.objectName?.isSome = true := by
  constructor
  · intro h
    obtain ⟨later, hlater, hobjects⟩ := root.adds_finish []
    rw [hlater, List.nil_append] at h
    obtain ⟨e, he⟩ := List.exists_mem_of_ne_nil later h
    obtain ⟨hn, hname⟩ := hobjects e he
    exact ⟨e.2, hn, by rw [hname]; rfl⟩
  · rintro ⟨n, hn, hname⟩
    exact finish_ne_nil hn hname []

end Node

namespace Profile

variable {p : Profile} {n root : Node} {extracts : Bool} {dialect : Option String} {document : Json}

/-! ## Assembled keywords -/

theorem uniform_assemble (hn : p.converts n.kind = true) {ks : List (Option Keywords)}
    (h : ∀ k, some k ∈ ks → Json.Uniform (.object k)) :
    Json.Uniform (.object (p.assemble n ks)) := by
  refine Json.uniform_iff.2 ⟨Json.isSubschema_object.2 ⟨Or.inr ?_, rootable_assemble hn ks⟩,
    fun e he => ?_⟩
  · obtain ⟨details, hown, -⟩ := ownKeywords_eq_cons hn
    exact ⟨p.typeValue n, details ++ n.partKeywords ks, by rw [assemble, hown]; rfl⟩
  · obtain ⟨k, hk, hv⟩ := mem_subschemas_assemble he
    rw [hv]
    exact h k hk

/-! ## Resolving -/

/-- All definitions have keywords, which make uniform schemas. -/
def UniformDefinitions : Definitions → Prop :=
  Definitions.Built fun _ _ k => Json.Uniform (.object k)

/-- The result is keywords that make a uniform schema. -/
def UniformResult (o : Option Keywords) : Prop := ∃ k, o = some k ∧ Json.Uniform (.object k)

/-- The computation keeps the definitions uniform, and its result satisfies `good`. -/
def KeepsUniform {σ α : Type} (good : α → Prop) : Postcondition σ α := fun _ s r =>
  UniformDefinitions s.definitions →
    UniformDefinitions r.2.definitions ∧ ∀ a, r.1 = .ok a → good a

theorem keepsUniform_emitReference {s t : Progress} {name : String}
    (h : UniformDefinitions s.definitions →
      UniformDefinitions t.definitions ∧ name ∈ keys t.definitions) :
    KeepsUniform UniformResult n s (Generator.emitReference name t) := by
  intro hs
  obtain ⟨ht, hname⟩ := h hs
  rw [Definitions.Built.emitReference ht hname]
  refine ⟨ht, fun o ho => ?_⟩
  cases ho
  exact ⟨_, rfl, Json.uniform_reference name⟩

theorem inductive_keepsUniform (p : Profile) (extracts : Bool) (dialect : Option String) :
    p.Inductive extracts dialect (KeepsUniform UniformResult) (KeepsUniform UniformResult)
      (KeepsUniform fun ks => ∀ o ∈ ks, UniformResult o) where
  unregistered n s _ hs := ⟨hs, fun _ h => by cases h⟩
  failed n s e t _ h hs := ⟨(h hs).1, fun _ h => by cases h⟩
  assembled n s ks t hn h hs := by
    obtain ⟨ht, hks⟩ := h hs
    refine ⟨ht, fun o ho => ?_⟩
    cases ho
    refine ⟨_, rfl, uniform_assemble hn fun k hk => ?_⟩
    obtain ⟨k', hk', huniform⟩ := hks ks rfl _ hk
    cases hk'
    exact huniform
  inlined n s r _ h := h
  known n s name _ hname := keepsUniform_emitReference fun hs => ⟨hs, (mem_keys_iff _ _).2 hname⟩
  broken n s name e t _ _ h := h
  defined n s name o t _ _ h := keepsUniform_emitReference fun hs => by
    obtain ⟨ht, ho⟩ := h hs
    obtain ⟨k, rfl, hk⟩ := ho o rfl
    exact (Definitions.Built.define (s := t.report (.cachingDefinition name t.path)) ht
      fun _ => hk).2
  nil s hs := ⟨hs, fun ks hks => by cases hks; simp⟩
  partFailed segment c parts s e t h hs := ⟨(h hs).1, fun _ h => by cases h⟩
  partResolved segment c parts s o t r u h hrest hs := by
    obtain ⟨ht, ho⟩ := h hs
    simp only [KeepsUniform, Progress.definitions_noteResult, Progress.definitions_leave] at hrest
    obtain ⟨hu, hks⟩ := hrest ht
    refine ⟨hu, fun ks hks' => ?_⟩
    cases r with
    | error e => cases hks'
    | ok ks =>
      cases hks'
      exact List.forall_mem_cons.2 ⟨ho o rfl, hks ks rfl⟩

/-- **Resolving a node gives a uniform schema and keeps the definitions uniform.** -/
theorem resolve_uniform (p : Profile) (extracts : Bool) (dialect : Option String) (n : Node)
    (s : Progress) :
    KeepsUniform UniformResult n s ((p.generator extracts dialect).resolve n s) :=
  resolve_induction (inductive_keepsUniform p extracts dialect) n s

/-! ## Documents -/

theorem run_eq_of_dialect (p : Profile) (extracts : Bool) (dialect dialect' : Option String)
    (root : Node) :
    (p.generator extracts dialect).run root = (p.generator extracts dialect').run root := by
  have hextracts : (p.generator extracts dialect).extractsDefinitions =
    (p.generator extracts dialect').extractsDefinitions := rfl
  exact Generator.run_congr hextracts fun _ _ => rfl

theorem generate_uniform (h : (p.generator extracts dialect).generate root = .ok document) :
    ∃ k D, Json.Uniform (.object k) ∧ UniformDefinitions D ∧
      document = .object (k ++ definitionsEntry D.schemas ++ dialectEntry dialect) ∧
      ∀ dialect', (p.generator extracts dialect').generate root =
        .ok (.object (k ++ definitionsEntry D.schemas ++ dialectEntry dialect')) := by
  have hresolve := p.resolve_uniform extracts dialect root {} .nil
  rw [← Generator.run] at hresolve
  rcases hr : (p.generator extracts dialect).run root with ⟨e | o, t⟩
  · rw [Generator.generate, hr] at h
    cases h
  · rw [hr] at hresolve
    obtain ⟨ht, ho⟩ := hresolve
    obtain ⟨k, rfl, hk⟩ := ho o rfl
    obtain ⟨-, hroot⟩ := Json.isSubschema_object.1 (Json.uniform_iff.1 hk).1
    have hgenerate (dialect' : Option String) : (p.generator extracts dialect').generate root =
        .ok (.object (k ++ definitionsEntry t.definitions.schemas ++ dialectEntry dialect')) := by
      rw [Generator.generate, run_eq_of_dialect p extracts dialect' dialect, hr, Generator.finish,
        document_eq p extracts dialect' hroot, Definitions.Built.sharedSchemas ht]
    rw [hgenerate dialect] at h
    exact ⟨k, t.definitions, hk, ht, (Except.ok.inj h).symm, hgenerate⟩

theorem uniform_of_mem_schemas {D : Definitions} (hD : UniformDefinitions D) {d : String × Json}
    (hd : d ∈ D.schemas) : d.2.Uniform := by
  obtain ⟨e, he, rfl⟩ := List.mem_map.1 hd
  obtain ⟨i, hi⟩ := List.mem_iff_getElem?.1 he
  obtain ⟨k, hk, huniform⟩ := Definitions.Built.getElem? hD hi
  rw [hk]
  exact huniform

theorem definitions_ne_nil_iff (h : (p.generator extracts dialect).generate root = .ok document) :
    document.definitions ≠ [] ↔
      extracts = true ∧ ∃ n ∈ root.postOrder, n.objectName?.isSome = true := by
  cases extracts with
  | false =>
    have hnil : document.definitions = [] := List.eq_nil_iff_forall_not_mem.2 fun d hd => by
      obtain ⟨n, -, -, ⟨k, hk, -⟩, -⟩ := (sites_generate_inline h fun _ _ => False).definitions d hd
      exact hk
    simp [hnil]
  | true =>
    have hmap (F : Node.Finished) : p.schemasOf F ≠ [] ↔ F ≠ [] := not_congr List.map_eq_nil_iff
    rw [definitions_generate h, hmap, Node.finish_nil_ne_nil_iff]
    simp

theorem erase_dialectEntry {k : Keywords} (hk : "$schema" ∉ keys k) (dialect : Option String) :
    erase (k ++ dialectEntry dialect) "$schema" = k := by
  have hdialect : erase (dialectEntry dialect) "$schema" = [] := by
    cases dialect <;> rfl
  rw [erase, List.filter_append, ← erase, ← erase, hdialect, erase_of_not_mem hk, List.append_nil]

/-- **Definitions and dialect stand at the root only, and every schema below it has one shape.**
Below the root of a document, and at all positions of a definition, every schema is a reference or
begins with its type, and has neither definitions nor a dialect. The root is such a schema, then the
definitions, which are there exactly if definitions are extracted and there is a named object, and
then the dialect if there is one. Without it the document is what is generated without a dialect. -/
theorem documents_are_uniform (h : (p.generator extracts dialect).generate root = .ok document) :
    (∀ e ∈ document.positions [], e.1 ≠ [] → e.2.IsSubschema) ∧
    (∀ d ∈ document.definitions, ∀ e ∈ d.2.positions [], e.2.IsSubschema) ∧
    (∃ k, Json.IsSubschema (.object k) ∧ document =
      .object (k ++ definitionsEntry document.definitions ++ dialectEntry dialect)) ∧
    ((document.member? "definitions").isSome = true ↔
      extracts = true ∧ ∃ e ∈ root.reachable [], e.2.objectName?.isSome = true) ∧
    (p.generator extracts none).generate root = .ok (document.without "$schema") := by
  obtain ⟨k, D, hk, hD, hdocument, hgenerate⟩ := generate_uniform h
  have hsubschema := Json.isSubschema_object.1 (Json.uniform_iff.1 hk).1
  have hdefinitions : document.definitions = D.schemas := by
    rw [hdocument]
    exact Json.definitions_document _ _ hsubschema.2
  refine ⟨fun e he hne => ?_, fun d hd => ?_, ⟨k, ?_, ?_⟩, ?_, ?_⟩
  · refine Json.isSubschema_of_mem_positions (fun e he => ?_) he hne
    rw [hdocument, Json.subschemas_append_of_plain _ (Json.plain_dialectEntry dialect),
      Json.subschemas_append_of_plain _ (Json.plain_definitionsEntry _)] at he
    exact (Json.uniform_iff.1 hk).2 e he
  · rw [hdefinitions] at hd
    exact uniform_of_mem_schemas hD hd
  · exact Json.isSubschema_object.2 hsubschema
  · rw [hdefinitions]
    exact hdocument
  · have hmember : (document.member? "definitions").isSome = true ↔ document.definitions ≠ [] := by
      rw [hdefinitions, hdocument, Option.isSome_iff_ne_none]
      exact not_congr (Json.member?_definitions_document_eq_none_iff _ _ hsubschema.2)
    rw [hmember, definitions_ne_nil_iff h]
    refine and_congr_right fun _ => ⟨?_, ?_⟩
    · rintro ⟨n, hn, hname⟩
      obtain ⟨q, hq⟩ := (Node.mem_postOrder_iff []).1 hn
      exact ⟨_, hq, hname⟩
    · rintro ⟨e, he, hname⟩
      exact ⟨e.2, (Node.mem_postOrder_iff []).2 ⟨e.1, he⟩, hname⟩
  · have hkeys : "$schema" ∉ keys (k ++ definitionsEntry D.schemas) := by
      rw [keys, List.map_append, List.mem_append, not_or]
      refine ⟨hsubschema.2.2, ?_⟩
      rw [definitionsEntry]
      split_ifs <;> simp
    rw [hgenerate none, hdocument, Json.without, erase_dialectEntry hkeys]
    exact congrArg (fun k => Except.ok (Json.object k)) (List.append_nil _)

/-- An object whose properties are called like keywords and whose users write keywords. -/
def imitation : Node :=
  let text := (Node.ofKind .string).withDefault
    (.object [("$schema", .null), ("definitions", .null)])
  ((Node.ofKind .object).field "$schema"
      (((Node.ofKind .object).withTypeName "$ref").field "$ref" text)).field "definitions"
    ((Node.ofKind .array).child text)

/-- Five schemas stand in the document, one of them in the definition, and the dialect comes off. -/
theorem imitation_uniform :
    ∃ document plain, (draft4.generator true (some "draft")).generate imitation = .ok document ∧
      (draft4.generator true none).generate imitation = .ok plain ∧ document ≠ plain ∧
      document.without "$schema" = plain ∧ keys document.definitions = ["$ref"] ∧
      (document.positions []).map Prod.fst = [[], [.property "$schema"], [.property "definitions"],
        [.property "definitions", .items]] ∧
      ∀ e ∈ document.positions [], e.1 ≠ [] → e.2.IsSubschema := by
  obtain ⟨document, h⟩ : ∃ document,
      (draft4.generator true (some "draft")).generate imitation = .ok document := ⟨_, rfl⟩
  obtain ⟨hbelow, -, -, -, hplain⟩ := documents_are_uniform h
  refine ⟨document, _, h, hplain, ?_, rfl, ?_, ?_, hbelow⟩
  · cases h
    decide
  · cases h
    rfl
  · cases h
    rfl

end Profile

end SchemaTree
