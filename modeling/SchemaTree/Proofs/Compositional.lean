import SchemaTree.Proofs.Inline
import SchemaTree.Proofs.Sites

/-!
# Conversions are compositional

Without definitions nothing around a node shows in its conversion: a node is converted below any
path as it is alone, and only the paths of errors get that path in front. So a document is put
together from the documents of the subtrees.

* `Relocates`: what a conversion elsewhere has to do with the conversion alone;
* `Profile.failure?_append`, `Profile.relocates_inline`: another path in front;
* `Profile.sites_generate_inline`, `Profile.generate_of_mem_positions`: the schemas in a document;
* **`Profile.conversion_is_compositional`**.
-/

namespace SchemaTree

open OrderedMap

/-- The outcome below a path is that of the conversion alone: the same schema, none where the
conversion alone gives null, and its error with the path in front. -/
structure Relocates (path : Path) (alone : Except ConversionError Json) (r : Outcome) : Prop where
  fragment : ∀ k, r = .ok (some k) ↔ alone = .ok (.object k)
  noResult : r = .ok none ↔ alone = .ok .null
  failure : ∀ kind q, r = .error ⟨kind, q⟩ ↔
    ∃ rest, q = path ++ rest ∧ alone = .error ⟨kind, rest⟩

namespace Profile

variable {p : Profile} {dialect : Option String}

/-! ## Outcomes -/

theorem failure?_append (p : Profile) (path q : Path) (n : Node) :
    p.failure? (path ++ q) n =
      (p.failure? q n).map fun e => { e with path := path ++ e.path } := by
  rw [failure?, failure?, Node.reachable_append, List.find?_map, Option.map_map, Option.map_map]
  rfl

theorem relocates_inline (p : Profile) (path : Path) (n : Node) :
    Relocates path ((p.generator false none).generate n) (p.inlineOutcome path n) := by
  have hfailure := failure?_append p path [] n
  rw [List.append_nil] at hfailure
  rw [generate_inline, inlineOutcome, hfailure]
  cases p.failure? [] n with
  | none =>
    have hdialect : p.inline n ++ dialectEntry none = p.inline n := List.append_nil _
    rw [hdialect]
    constructor <;> simp
  | some e =>
    refine ⟨by simp, by simp, fun kind q => ?_⟩
    simp only [Option.map_some, Except.error.injEq]
    constructor
    · rintro ⟨⟩
      exact ⟨e.path, rfl, rfl⟩
    · rintro ⟨rest, rfl, rfl⟩
      rfl

/-! ## Documents -/

theorem partsBelow_inline (p : Profile) (n : Node) :
    PartsBelow p.inline n (.object (p.inline n)) := by
  have h := partsBelow_assemble p p.inline n
  rwa [← inline_eq] at h

theorem failure?_of_nodeAt? {n m : Node} {q : Path} (hn : p.failure? [] n = none)
    (hm : n.nodeAt? q = some m) : p.failure? [] m = none := by
  have hq : p.failure? q m = none := failure?_eq_none_iff.2 fun e he =>
    failure?_eq_none_iff.1 hn e (Node.reachable_trans he n [] (Node.mem_reachable_of_nodeAt? [] hm))
  have happend := failure?_append p q [] m
  rw [List.append_nil, hq] at happend
  exact Option.map_eq_none_iff.1 happend.symm

theorem inline_of_generate {root : Node} {document : Json}
    (h : (p.generator false dialect).generate root = .ok document) :
    p.failure? [] root = none ∧ document = .object (p.inline root ++ dialectEntry dialect) := by
  rw [generate_inline] at h
  cases hfailure : p.failure? [] root with
  | some error =>
    rw [hfailure] at h
    cases h
  | none =>
    rw [hfailure] at h
    exact ⟨rfl, (Except.ok.inj h).symm⟩

theorem sites_generate_inline {root : Node} {document : Json}
    (h : (p.generator false dialect).generate root = .ok document) (Q : Node → Keywords → Prop) :
    Sites root dialect document (fun n k => k = p.inline n) Q := by
  obtain ⟨hfailure, hdocument⟩ := inline_of_generate h
  have hnone : p.inline root ++ definitionsEntry [] = p.inline root := List.append_nil _
  have hdefinitions : document.definitions = [] := by
    rw [hdocument, ← hnone]
    exact Json.definitions_document _ _ (rootable_inline (converts_of_failure?_eq_none hfailure))
  refine ⟨⟨p.inline root, rfl, ?_⟩, ?_, fun d hd => ?_⟩
  · rw [hdefinitions, hnone, hdocument]
  · rw [hdocument]
    exact ((partsBelow_inline p root).append (Json.plain_dialectEntry dialect)).sitesBelow
      (partsBelow_inline p)
  · rw [hdefinitions] at hd
    cases hd

theorem generate_of_mem_positions {n : Node} {document : Json}
    (h : (p.generator false dialect).generate n = .ok document) {e : Path × Json}
    (he : e ∈ document.positions []) (hne : e.1 ≠ []) :
    ∃ m, n.nodeAt? e.1 = some m ∧ (p.generator false none).generate m = .ok e.2 := by
  obtain ⟨m, k, hm, rfl, hv⟩ := (sites_generate_inline h fun _ _ => True).below e he hne
  refine ⟨m, hm, ?_⟩
  rw [generate_inline, failure?_of_nodeAt? (inline_of_generate h).1 hm, hv]
  exact congrArg (fun k => Except.ok (Json.object k)) (List.append_nil _)

/-- **Conversions are compositional.** Without definitions, a node that is resolved one segment
below any path, whatever has been defined, gives what its conversion alone gives, and path and
definitions stay. So every schema in a document is the document of the node there alone. -/
theorem conversion_is_compositional (p : Profile) (dialect : Option String) (n : Node) :
    (∀ (s : Progress) (segment : Segment),
      let r := s.descend segment ((p.generator false dialect).resolve n)
      Relocates (s.path.push segment) ((p.generator false none).generate n) r.1 ∧
        r.2.path = s.path ∧ r.2.definitions = s.definitions) ∧
    ∀ document, (p.generator false dialect).generate n = .ok document →
      ∀ e ∈ document.positions [], e.1 ≠ [] →
        ∃ m, n.nodeAt? e.1 = some m ∧ (p.generator false none).generate m = .ok e.2 := by
  refine ⟨fun s segment => ?_, fun document h e he hne => generate_of_mem_positions h he hne⟩
  obtain ⟨hr, -, hdefs⟩ := p.resolve_inline dialect n (s.enter segment)
  have hrelocates := relocates_inline p (s.enter segment).path n
  rw [← hr] at hrelocates
  exact ⟨hrelocates, rfl, hdefs⟩

/-- An object with a list of objects, in which a property with a user's `properties` stands. -/
def catalogue : Node :=
  (Node.ofKind .object).field "entries" ((Node.ofKind .array).child
    ((Node.ofKind .object).field "label"
      ((Node.ofKind .string).withDefault (.object [("properties", .object [("x", .null)])]))))

/-- A catalogue gives the same below a path as alone, and so does an entry of it. -/
theorem catalogue_composed :
    ∃ document k entry m,
      (draft4.generator false (some "draft")).generate catalogue = .ok document ∧
      (Progress.descend ⟨[.property "shop"], [("Taken", none)], []⟩ .items
        ((draft4.generator false (some "draft")).resolve catalogue)).1 = .ok (some k) ∧
      (draft4.generator false none).generate catalogue = .ok (.object k) ∧
      ([.property "entries", .items], entry) ∈ document.positions [] ∧
      catalogue.nodeAt? [.property "entries", .items] = some m ∧
      (draft4.generator false none).generate m = .ok entry := by
  obtain ⟨hbelow, hparts⟩ := conversion_is_compositional draft4 (some "draft") catalogue
  obtain ⟨k, hk⟩ : ∃ k, (draft4.generator false none).generate catalogue = .ok (.object k) :=
    ⟨_, rfl⟩
  obtain ⟨hrelocates, -, -⟩ := hbelow ⟨[.property "shop"], [("Taken", none)], []⟩ .items
  obtain ⟨document, h⟩ : ∃ document,
      (draft4.generator false (some "draft")).generate catalogue = .ok document := ⟨_, rfl⟩
  obtain ⟨entry, hentry⟩ : ∃ entry,
      ([.property "entries", .items], entry) ∈ document.positions [] := by
    cases h
    exact ⟨_, List.mem_of_getElem? (i := 2) rfl⟩
  obtain ⟨m, hm, halone⟩ := hparts document h _ hentry (List.cons_ne_nil _ _)
  exact ⟨document, k, entry, m, h, (hrelocates.fragment k).2 hk, hk, hentry, hm, halone⟩

end Profile

end SchemaTree
