import SchemaTree.Proofs.Pointer
import SchemaTree.Proofs.Position

/-!
# Dereferencing

At a schema position, a reference stands for the keywords of the definition that it names. To
**dereference** a document is to put them in the place of every reference, again and again, and to
drop the definitions. References are followed one inside another as often as there are definitions:
with references that only go back to earlier definitions this reaches them all.

* `Json.replaceReferences`, with `replaceKeywords_append` and `replaceKeywords_of_plain`;
* `Json.definitions`, `Json.definitionOf`: the definitions of a document and what a reference names;
* `Json.expand`, `Json.dereference`;
* **`references_replaceReferences`**: references replaced by schemas without references are gone.
-/

namespace SchemaTree

open OrderedMap

namespace Json

/-! ## Replacing references -/

section

variable (f : Json → Option Keywords)

mutual

/-- The schema with the keywords `f v` in the place of every `$ref` with value `v` at a position;
where `f` gives none the reference stays. -/
def replaceReferences : Json → Json
  | .object k => .object (replaceKeywords k)
  | v => v

/-- The keywords of a schema with their references replaced. -/
def replaceKeywords : List (String × Json) → List (String × Json)
  | [] => []
  | (key, v) :: k =>
    (if key = "$ref" then (f v).getD [(key, v)]
    else if key = "properties" then [(key, replaceProperties v)]
    else if key = "items" then [(key, replaceReferences v)]
    else [(key, v)]) ++ replaceKeywords k

/-- The value of `properties` with references replaced. -/
def replaceProperties : Json → Json
  | .object members => .object (replaceMembers members)
  | v => v

/-- Properties with references replaced. -/
def replaceMembers : List (String × Json) → List (String × Json)
  | [] => []
  | (name, v) :: members => (name, replaceReferences v) :: replaceMembers members

end

theorem replaceMembers_eq_map (members : List (String × Json)) :
    replaceMembers f members = members.map fun e => (e.1, replaceReferences f e.2) := by
  induction members with
  | nil => rfl
  | cons e members ih => rw [replaceMembers, ih, List.map_cons]

theorem replaceKeywords_append (k k' : List (String × Json)) :
    replaceKeywords f (k ++ k') = replaceKeywords f k ++ replaceKeywords f k' := by
  induction k with
  | nil => rfl
  | cons e k ih => rw [List.cons_append, replaceKeywords, ih, replaceKeywords, List.append_assoc]

theorem replaceKeywords_of_plain {k : List (String × Json)} (h : Plain k) :
    replaceKeywords f k = k := by
  induction k with
  | nil => rfl
  | cons e k ih =>
    obtain ⟨key, v⟩ := e
    obtain ⟨⟨href, hproperties, hitems⟩, hk⟩ := List.forall_mem_cons.1 h
    rw [replaceKeywords, if_neg href, if_neg hproperties, if_neg hitems, ih hk]
    rfl

end

/-! ## Definitions -/

/-- The definitions at the root of a document. -/
def definitions (document : Json) : OrderedMap String Json :=
  match document.member? "definitions" with
  | some (.object members) => members
  | _ => []

/-- The keywords of the definition that a reference with value `v` names. -/
def definitionOf (defs : OrderedMap String Json) (v : Json) : Option Keywords :=
  match v with
  | .string pointer =>
    match (Keywords.definitionName? pointer).bind (get? defs) with
    | some (.object k) => some k
    | _ => none
  | _ => none

/-- The keywords with references replaced by definitions, followed up to `depth` times one inside
another. -/
def expand (defs : OrderedMap String Json) : Nat → Keywords → Keywords
  | 0, k => k
  | depth + 1, k => replaceKeywords (fun v => (definitionOf defs v).map (expand defs depth)) k

/-- The document with every reference replaced by its definition, and without definitions. -/
def dereference : Json → Json
  | .object k =>
    let defs := definitions (.object k)
    .object (erase (expand defs defs.length k) "definitions")
  | v => v

theorem definitionOf_pointer {defs : OrderedMap String Json} {name : String} {k : Keywords}
    (h : get? defs name = some (.object k)) :
    definitionOf defs (.string (Keywords.definitionPointer name)) = some k := by
  rw [definitionOf, Keywords.definitionName?_definitionPointer, Option.bind_some, h]

theorem expand_append (defs : OrderedMap String Json) (depth : Nat) (k k' : Keywords) :
    expand defs depth (k ++ k') = expand defs depth k ++ expand defs depth k' := by
  cases depth with
  | zero => rfl
  | succ depth => exact replaceKeywords_append _ k k'

theorem expand_of_plain (defs : OrderedMap String Json) (depth : Nat) {k : Keywords} (h : Plain k) :
    expand defs depth k = k := by
  cases depth with
  | zero => rfl
  | succ depth => exact replaceKeywords_of_plain _ h

theorem expand_reference {defs : OrderedMap String Json} {name : String} {k : Keywords}
    (h : get? defs name = some (.object k)) (depth : Nat) :
    expand defs (depth + 1) (Keywords.reference name) = expand defs depth k := by
  rw [expand, Keywords.reference, replaceKeywords, if_pos rfl, definitionOf_pointer h]
  exact List.append_nil _

/-! ## References that are left -/

theorem mem_references_append {k k' : Keywords} {r : Json} :
    r ∈ references (.object (k ++ k')) ↔
      r ∈ references (.object k) ∨ r ∈ references (.object k') := by
  rw [references_eq, references_eq (.object k), references_eq (.object k')]
  simp only [ownReferences, subschemas_append, List.filterMap_append, List.flatMap_append,
    List.mem_append]
  exact or_or_or_comm

theorem mem_references_cons (e : String × Json) (k : Keywords) (r : Json) :
    r ∈ references (.object (e :: k)) ↔
      r ∈ references (.object [e]) ∨ r ∈ references (.object k) :=
  mem_references_append (k := [e])

theorem references_nil : references (.object []) = [] := rfl

theorem references_reference (v : Json) : references (.object [("$ref", v)]) = [v] := by
  rw [references_eq]
  rfl

theorem references_properties (members : List (String × Json)) :
    references (.object [("properties", .object members)]) = members.flatMap fun e => e.2.references := by
  rw [references_eq]
  change [] ++ List.flatMap _ (members.map _ ++ []) = _
  rw [List.nil_append, List.append_nil, List.flatMap_map]

theorem references_items (v : Json) : references (.object [("items", v)]) = v.references := by
  rw [references_eq]
  exact List.append_nil _

theorem mem_references_of_erase {k : Keywords} {key : String} {r : Json}
    (h : r ∈ references (.object (erase k key))) : r ∈ references (.object k) := by
  induction k with
  | nil => exact h
  | cons e k ih =>
    rw [mem_references_cons]
    rw [erase, List.filter_cons, ← erase] at h
    split_ifs at h
    · exact ((mem_references_cons _ _ _).1 h).imp_right ih
    · exact Or.inr (ih h)

theorem references_replaced_entry (f : Json → Option Keywords) {key : String} {v : Json}
    (h : ∀ r ∈ references (.object [(key, v)]), ∃ k, f r = some k ∧ references (.object k) = [])
    (ih : ∀ e ∈ keywordSchemas key v,
      (∀ r ∈ e.2.references, ∃ k, f r = some k ∧ references (.object k) = []) →
        (e.2.replaceReferences f).references = []) :
    references (.object
      (if key = "$ref" then (f v).getD [(key, v)]
      else if key = "properties" then [(key, replaceProperties f v)]
      else if key = "items" then [(key, replaceReferences f v)]
      else [(key, v)])) = [] := by
  by_cases href : key = "$ref"
  · subst href
    rw [references_reference] at h
    obtain ⟨k, hk, hrefs⟩ := h v (List.mem_singleton.2 rfl)
    rw [if_pos rfl, hk]
    exact hrefs
  rw [if_neg href]
  by_cases hproperties : key = "properties"
  · subst hproperties
    rw [if_pos rfl]
    cases v with
    | object members =>
      rw [references_properties] at h
      rw [replaceProperties, references_properties, replaceMembers_eq_map, List.flatMap_map,
        List.flatMap_eq_nil_iff]
      intro e he
      exact ih (.property e.1, e.2) (List.mem_map.2 ⟨e, he, rfl⟩) fun r hr =>
        h r (List.mem_flatMap.2 ⟨e, he, hr⟩)
    | _ => rfl
  rw [if_neg hproperties]
  by_cases hitems : key = "items"
  · subst hitems
    rw [references_items] at h
    rw [if_pos rfl, references_items]
    exact ih (.items, v) (List.mem_singleton.2 rfl) h
  rw [if_neg hitems]
  exact references_of_plain (by simp [Plain, keys, href, hproperties, hitems])

/-- **If every reference is replaced by keywords without references, none is left.** -/
theorem references_replaceReferences (f : Json → Option Keywords) (v : Json)
    (h : ∀ r ∈ v.references, ∃ k, f r = some k ∧ references (.object k) = []) :
    (v.replaceReferences f).references = [] := by
  induction v using schema_induction with
  | h v ih =>
    cases v with
    | object k =>
      rw [replaceReferences, List.eq_nil_iff_forall_not_mem]
      change ∀ e ∈ k.flatMap (fun e => keywordSchemas e.1 e.2), _ at ih
      induction k with
      | nil => rw [replaceKeywords, references_nil]; simp
      | cons e k ihk =>
        obtain ⟨key, v⟩ := e
        rw [List.flatMap_cons, List.forall_mem_append] at ih
        have hentry : ∀ r ∈ references (.object [(key, v)]),
            ∃ k, f r = some k ∧ references (.object k) = [] := fun r hr =>
          h r ((mem_references_cons _ _ _).2 (Or.inl hr))
        have hrest : ∀ r ∈ references (.object k), _ := fun r hr =>
          h r ((mem_references_cons _ _ _).2 (Or.inr hr))
        intro r hr
        rw [replaceKeywords] at hr
        rcases mem_references_append.1 hr with hr | hr
        · rw [references_replaced_entry f hentry ih.1] at hr
          cases hr
        · exact ihk hrest ih.2 r hr
    | _ => rfl

end Json

end SchemaTree
