import SchemaTree.OrderedMap
import SchemaTree.Json.Basic
import SchemaTree.Path
import Mathlib.Data.List.Basic
import Mathlib.Tactic.SplitIfs

/-!
# Schema positions

A document holds schemas at its **positions**: the document itself, the values of `properties` and
the value of `items` of a schema. The property `name` is at `properties/name` below its object, an
item at `items` below its array. What users write under other keywords holds no schemas.

* `Json.subschemas`, with `Json.schema_induction`;
* `Json.positions`: the schemas of a document with their paths, outermost first; `positions_eq`;
* `Json.schemaAt?`: the schema that a path leads to;
* `Json.references`: what stands under `$ref` at the positions; `references_eq`;
* `Json.Plain`: keywords without references and schemas.
-/

namespace SchemaTree

open OrderedMap

namespace Json

/-! ## Subschemas -/

/-- The members of an object, each as the schema of a property. -/
def propertySchemas : Json → List (Segment × Json)
  | .object members => members.map fun (name, v) => (.property name, v)
  | _ => []

/-- The schemas that a keyword holds. -/
def keywordSchemas (key : String) (v : Json) : List (Segment × Json) :=
  if key = "properties" then v.propertySchemas else if key = "items" then [(.items, v)] else []

/-- The schemas that a schema holds one step below. -/
def subschemas : Json → List (Segment × Json)
  | .object k => k.flatMap fun (key, v) => keywordSchemas key v
  | _ => []

theorem subschemas_append (k k' : List (String × Json)) :
    subschemas (.object (k ++ k')) = subschemas (.object k) ++ subschemas (.object k') :=
  List.flatMap_append

theorem sizeOf_lt_of_mem_members {members : List (String × Json)} {e : String × Json}
    (h : e ∈ members) : sizeOf e.2 < sizeOf (Json.object members) := by
  have hlist := List.sizeOf_lt_of_mem h
  obtain ⟨name, v⟩ := e
  simp only [Prod.mk.sizeOf_spec, Json.object.sizeOf_spec] at hlist ⊢
  omega

theorem sizeOf_lt_of_mem_subschemas {v : Json} {e : Segment × Json} (h : e ∈ v.subschemas) :
    sizeOf e.2 < sizeOf v := by
  cases v with
  | object k =>
    obtain ⟨⟨key, w⟩, hw, he⟩ := List.mem_flatMap.1 h
    have hkey := sizeOf_lt_of_mem_members hw
    simp only [keywordSchemas] at he
    split_ifs at he
    · cases w with
      | object members =>
        obtain ⟨f, hf, rfl⟩ := List.mem_map.1 he
        exact Nat.lt_trans (sizeOf_lt_of_mem_members hf) hkey
      | _ => cases he
    · rw [List.mem_singleton.1 he]
      exact hkey
    · cases he
  | _ => cases h

theorem schema_induction {P : Json → Prop} (h : ∀ v, (∀ e ∈ v.subschemas, P e.2) → P v) (v : Json) :
    P v := by
  induction hn : sizeOf v using Nat.strongRecOn generalizing v with
  | ind n ih => exact h v fun e he => ih _ (hn ▸ sizeOf_lt_of_mem_subschemas he) e.2 rfl

/-! ## Positions -/

mutual

/-- The schemas at the positions of a schema at `path`, outermost first, with their paths. -/
def positions (path : Path) : Json → List (Path × Json)
  | .object k => (path, .object k) :: keywordPositions path k
  | v => [(path, v)]

/-- The schemas at the positions that keywords hold. -/
def keywordPositions (path : Path) : List (String × Json) → List (Path × Json)
  | [] => []
  | (key, v) :: k =>
    (if key = "properties" then propertyPositions path v
    else if key = "items" then positions (path.push .items) v
    else []) ++ keywordPositions path k

/-- The schemas at the positions below the value of `properties`. -/
def propertyPositions (path : Path) : Json → List (Path × Json)
  | .object members => memberPositions path members
  | _ => []

/-- The schemas at the positions below some properties. -/
def memberPositions (path : Path) : List (String × Json) → List (Path × Json)
  | [] => []
  | (name, v) :: members =>
    positions (path.push (.property name)) v ++ memberPositions path members

end

theorem memberPositions_eq (path : Path) (members : List (String × Json)) :
    memberPositions path members =
      members.flatMap fun e => e.2.positions (path.push (.property e.1)) := by
  induction members with
  | nil => rfl
  | cons e members ih => rw [memberPositions, ih, List.flatMap_cons]

theorem keywordPositions_eq (path : Path) (k : List (String × Json)) :
    keywordPositions path k =
      (k.flatMap fun e => keywordSchemas e.1 e.2).flatMap fun e =>
        e.2.positions (path.push e.1) := by
  induction k with
  | nil => rfl
  | cons e k ih =>
    obtain ⟨key, v⟩ := e
    rw [keywordPositions, ih, List.flatMap_cons, List.flatMap_append, keywordSchemas]
    congr 1
    split_ifs
    · cases v <;> simp [propertyPositions, propertySchemas, memberPositions_eq, List.flatMap_map]
    · simp
    · rfl

theorem positions_eq (path : Path) (v : Json) :
    v.positions path = (path, v) :: v.subschemas.flatMap fun e => e.2.positions (path.push e.1) := by
  cases v with
  | object k => rw [positions, keywordPositions_eq, subschemas]
  | _ => rfl

theorem positions_append (p : Path) (v : Json) :
    ∀ q : Path, v.positions (p ++ q) = (v.positions q).map (Prod.map (p ++ ·) id) := by
  induction v using schema_induction with
  | h v ih =>
    intro q
    rw [positions_eq, positions_eq q, List.map_cons, List.map_flatMap]
    refine congrArg _ (List.flatMap_congr fun e he => ?_)
    rw [Path.append_push]
    exact ih e he (Path.push q e.1)

/-! ## Lookup -/

/-- The value of a member. -/
def member? : Json → String → Option Json
  | .object members, key => get? members key
  | _, _ => none

/-- The schema that a segment leads to. -/
def subschema? (v : Json) : Segment → Option Json
  | .property name => (v.member? "properties").bind fun w => w.member? name
  | .items => v.member? "items"

/-- The schema that a path leads to. -/
def schemaAt? (v : Json) : Path → Option Json
  | [] => some v
  | segment :: path => (v.subschema? segment).bind fun w => w.schemaAt? path

/-! ## References -/

/-- What stands under `$ref` in a schema. -/
def ownReferences : Json → List Json
  | .object k => k.filterMap fun (key, v) => if key = "$ref" then some v else none
  | _ => []

/-- What stands under `$ref` at the positions of a schema. -/
def references (v : Json) : List Json := (v.positions []).flatMap fun e => e.2.ownReferences

theorem references_of_path (v : Json) (path : Path) :
    ((v.positions path).flatMap fun e => e.2.ownReferences) = v.references := by
  have h := positions_append path v []
  rw [List.append_nil] at h
  rw [h, references, List.flatMap_map]
  rfl

theorem references_eq (v : Json) :
    v.references = v.ownReferences ++ v.subschemas.flatMap fun e => e.2.references := by
  rw [references, positions_eq, List.flatMap_cons, List.flatMap_assoc]
  simp only [references_of_path]

/-! ## Plain keywords -/

/-- Keywords that are no references and hold no schemas. -/
def Plain (k : List (String × Json)) : Prop :=
  ∀ key ∈ keys k, key ≠ "$ref" ∧ key ≠ "properties" ∧ key ≠ "items"

variable {k : List (String × Json)}

theorem subschemas_of_plain (h : Plain k) : subschemas (.object k) = [] := by
  rw [subschemas, List.flatMap_eq_nil_iff]
  intro e he
  obtain ⟨-, hproperties, hitems⟩ := h e.1 (List.mem_map_of_mem he)
  simp only [keywordSchemas, if_neg hproperties, if_neg hitems]

theorem subschemas_append_of_plain (k : List (String × Json)) {k' : List (String × Json)}
    (h : Plain k') : subschemas (.object (k ++ k')) = subschemas (.object k) := by
  rw [subschemas_append, subschemas_of_plain h, List.append_nil]

theorem ownReferences_of_not_mem (h : "$ref" ∉ keys k) : ownReferences (.object k) = [] := by
  rw [ownReferences, List.filterMap_eq_nil_iff]
  intro e he
  have hkey : e.1 ≠ "$ref" := fun hkey => h (hkey ▸ List.mem_map_of_mem he)
  exact if_neg hkey

theorem references_of_plain (h : Plain k) : references (.object k) = [] := by
  rw [references_eq, subschemas_of_plain h, ownReferences_of_not_mem fun hmem => (h _ hmem).1 rfl,
    List.flatMap_nil, List.append_nil]

end Json

end SchemaTree
