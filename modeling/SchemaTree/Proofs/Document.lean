import SchemaTree.Proofs.Dereference
import SchemaTree.Proofs.Resolution

/-!
# Documents

A document is the keywords of the root, then the definitions if there are any, then the dialect if
there is one. The last two hold no schema position.

* `Generator.run_eq_error`, `Profile.document_eq`;
* `Json.definitions_document`, `Json.mem_references_document`: a document read back;
* `Json.dereference_document`: what dereferencing does to each of its entries.
-/

namespace SchemaTree

open OrderedMap

/-- The entry of a document for its definitions, if it has any. -/
def definitionsEntry (defs : OrderedMap String Json) : Keywords :=
  if defs.isEmpty then [] else [("definitions", .object defs)]

/-- The entry of a document for its dialect, if it has one. -/
def dialectEntry (dialect : Option String) : Keywords :=
  match dialect with
  | none => []
  | some d => [("$schema", .string d)]

/-- Keywords of a root do not have the keys of the other entries. -/
def Rootable (k : Keywords) : Prop := "definitions" ∉ keys k ∧ "$schema" ∉ keys k

theorem rootable_reference (name : String) : Rootable (Keywords.reference name) := by
  simp [Rootable, Keywords.reference, keys]

theorem Generator.run_eq_error {g : Generator} {root : Node} {e : ConversionError}
    (h : g.generate root = .error e) : (g.run root).1 = .error e := by
  rw [generate] at h
  rcases hr : g.run root with ⟨e' | _ | k, t⟩ <;> rw [hr] at h <;> cases h
  rfl

namespace Profile

variable {p : Profile}

theorem rootable_assemble {n : Node} (h : p.converts n.kind = true) (ks : List (Option Keywords)) :
    Rootable (p.assemble n ks) :=
  ⟨not_mem_keys_assemble h (by decide), not_mem_keys_assemble h (by decide)⟩

/-- **The entries of a document follow the keywords of its root.** -/
theorem document_eq (p : Profile) (extracts : Bool) (dialect : Option String) {k : Keywords}
    (hk : Rootable k) (defs : OrderedMap String Json) :
    (p.generator extracts dialect).document k defs =
      k ++ definitionsEntry defs ++ dialectEntry dialect := by
  have hdefs : (if defs.isEmpty then k else OrderedMap.insert k "definitions" (.object defs)) =
      k ++ definitionsEntry defs := by
    rw [definitionsEntry]
    split_ifs
    · exact (List.append_nil k).symm
    · exact insert_of_not_mem hk.1 _
  rw [Generator.document, hdefs]
  cases dialect with
  | none => exact (List.append_nil _).symm
  | some d =>
    refine insert_of_not_mem (fun hmem => ?_) _
    rw [keys, List.map_append, List.mem_append, definitionsEntry] at hmem
    rcases hmem with hmem | hmem
    · exact hk.2 hmem
    · split_ifs at hmem <;> simp at hmem

end Profile

namespace Json

variable {k : Keywords} (defs : OrderedMap String Json) (dialect : Option String)

theorem plain_definitionsEntry : Plain (definitionsEntry defs) := by
  rw [definitionsEntry]
  split_ifs <;> simp [Plain, keys]

theorem plain_dialectEntry : Plain (dialectEntry dialect) := by
  cases dialect <;> simp [dialectEntry, Plain, keys]

theorem member?_definitions_document (hk : Rootable k) :
    member? (.object (k ++ definitionsEntry defs ++ dialectEntry dialect)) "definitions" =
      get? (definitionsEntry defs) "definitions" := by
  have hdialect : get? (dialectEntry dialect) "definitions" = none := by
    cases dialect <;> rfl
  rw [member?, get?_append, get?_append, (get?_eq_none_iff k _).2 hk.1, hdialect, Option.none_or,
    Option.or_none]

theorem definitions_document (hk : Rootable k) :
    definitions (.object (k ++ definitionsEntry defs ++ dialectEntry dialect)) = defs := by
  rw [definitions, member?_definitions_document defs dialect hk, definitionsEntry]
  cases defs <;> rfl

theorem member?_definitions_document_eq_none_iff (hk : Rootable k) :
    member? (.object (k ++ definitionsEntry defs ++ dialectEntry dialect)) "definitions" = none ↔
      defs = [] := by
  rw [member?_definitions_document defs dialect hk, definitionsEntry]
  cases defs <;> simp [get?]

theorem references_append_of_plain {k' : Keywords} (h : Plain k') {r : Json} :
    r ∈ references (.object (k ++ k')) ↔ r ∈ references (.object k) := by
  rw [mem_references_append, references_of_plain h]
  simp

theorem mem_references_document {r : Json} :
    r ∈ references (.object (k ++ definitionsEntry defs ++ dialectEntry dialect)) ↔
      r ∈ references (.object k) := by
  rw [references_append_of_plain (plain_dialectEntry dialect),
    references_append_of_plain (plain_definitionsEntry defs)]

/-- **Dereferencing a document expands its root and drops its definitions.** -/
theorem dereference_document (hk : Rootable k) :
    dereference (.object (k ++ definitionsEntry defs ++ dialectEntry dialect)) =
      .object (erase (expand defs defs.length k) "definitions" ++ dialectEntry dialect) := by
  have hdefs : erase (definitionsEntry defs) "definitions" = [] := by
    cases defs <;> rfl
  have hdialect : erase (dialectEntry dialect) "definitions" = dialectEntry dialect := by
    cases dialect <;> rfl
  rw [dereference]
  simp only [definitions_document defs dialect hk]
  rw [expand_append, expand_append, expand_of_plain _ _ (plain_definitionsEntry defs),
    expand_of_plain _ _ (plain_dialectEntry dialect)]
  rw [erase, List.filter_append, List.filter_append, ← erase, ← erase, ← erase, hdefs, hdialect,
    List.append_nil]

end Json

end SchemaTree
