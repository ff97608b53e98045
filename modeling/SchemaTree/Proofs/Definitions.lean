import SchemaTree.Conversion.State
import SchemaTree.Generator

/-!
# Definitions as they are added

Definitions are added one by one, each behind the others and under a new name. What is said of an
entry when it is added is said of it and of the definitions before it.

* `Definitions.Built`: every entry satisfies a property together with the earlier definitions;
  `Built.nodup`, `Built.isPrefix`, **`Built.exists_of_mem`**, `Built.define`;
* `Definitions.schemas`, `Built.sharedSchemas`: all entries reach the document, at their places.
-/

namespace SchemaTree

open OrderedMap

namespace Definitions

/-- Every name is new and has keywords that satisfy `P` together with the definitions before it. -/
inductive Built (P : Definitions → String → Keywords → Prop) : Definitions → Prop
  | nil : Built P []
  | snoc {D : Definitions} {name : String} {k : Keywords} :
    Built P D → name ∉ keys D → P D name k → Built P (D ++ [(name, some k)])

/-- The definitions as schemas. -/
def schemas (D : Definitions) : OrderedMap String Json :=
  D.map fun e => (e.1, .object (e.2.getD []))

variable {P : Definitions → String → Keywords → Prop} {D : Definitions} {name : String}

theorem length_schemas (D : Definitions) : D.schemas.length = D.length := List.length_map _

theorem keys_schemas (D : Definitions) : keys D.schemas = keys D := by
  rw [schemas, keys, List.map_map]
  rfl

theorem get?_schemas (D : Definitions) (name : String) :
    get? D.schemas name = (get? D name).map fun o => .object (o.getD []) := by
  rw [schemas]
  induction D with
  | nil => rfl
  | cons e D ih =>
    rw [List.map_cons, get?, get?, ih]
    by_cases h : e.1 = name <;> simp [h]

theorem get?_schemas_of_isPrefix {D' : Definitions} (hD : D' <+: D) {k : Keywords}
    (h : get? D' name = some (some k)) : get? D.schemas name = some (.object k) := by
  rw [get?_schemas, get?_of_isPrefix hD h]
  rfl

theorem keys_snoc (D : Definitions) (name : String) (o : Option Keywords) :
    keys (D ++ [(name, o)]) = keys D ++ [name] := by
  rw [keys, List.map_append]
  rfl

theorem Built.nodup (h : Built P D) : (keys D).Nodup := by
  induction h with
  | nil => exact List.nodup_nil
  | snoc _ hname _ ih =>
    rw [keys_snoc, List.nodup_append]
    exact ⟨ih, by simp, fun a ha b hb => by
      rw [List.mem_singleton.1 hb]
      exact fun hab => hname (hab ▸ ha)⟩

theorem Built.isPrefix (h : Built P D) {D' : Definitions} (hD : D' <+: D) : Built P D' := by
  induction h with
  | nil =>
    rw [List.prefix_nil.1 hD]
    exact nil
  | snoc hbuilt hname hP ih =>
    rcases List.prefix_concat_iff.1 hD with rfl | hD
    · exact snoc hbuilt hname hP
    · exact ih hD

/-- **A name has keywords, which satisfy `P` together with fewer definitions.** -/
theorem Built.exists_of_mem (h : Built P D) (hname : name ∈ keys D) :
    ∃ k D', get? D name = some (some k) ∧ D' <+: D ∧ D'.length < D.length ∧ P D' name k := by
  induction h with
  | nil => cases hname
  | @snoc D name' k _ hnew hP ih =>
    rw [keys_snoc] at hname
    rcases List.mem_append.1 hname with hname | hname
    · obtain ⟨k', D', hget, hD, hlt, hP'⟩ := ih hname
      refine ⟨k', D', ?_, hD.trans (List.prefix_append _ _), ?_, hP'⟩
      · rw [get?_append, hget, Option.some_or]
      · rw [List.length_append]
        exact Nat.lt_add_right _ hlt
    · rw [List.mem_singleton.1 hname]
      refine ⟨k, D, ?_, List.prefix_append _ _, ?_, hP⟩
      · rw [get?_append, (get?_eq_none_iff D name').2 hnew, Option.none_or, get?, if_pos rfl]
      · simp

theorem Built.getElem? (h : Built P D) {i : Nat} {e : String × Option Keywords}
    (hi : D[i]? = some e) : ∃ k, e.2 = some k ∧ P (D.take i) e.1 k := by
  induction h with
  | nil => cases hi
  | @snoc D name k _ _ hP ih =>
    rcases Nat.lt_trichotomy i D.length with hlt | rfl | hgt
    · rw [List.getElem?_append_left hlt] at hi
      rw [List.take_append_of_le_length (Nat.le_of_lt hlt)]
      exact ih hi
    · rw [List.getElem?_concat_length, Option.some_inj] at hi
      rw [List.take_left, ← hi]
      exact ⟨k, rfl, hP⟩
    · rw [List.getElem?_eq_none (by simp; omega)] at hi
      cases hi

theorem Built.sharedSchemas {s : Progress} (h : Built P s.definitions) :
    s.sharedSchemas = s.definitions.schemas := by
  rw [Progress.sharedSchemas]
  generalize s.definitions = D at h
  induction h with
  | nil => rfl
  | snoc _ _ _ ih =>
    rw [List.filterMap_append, ih, schemas, schemas, List.map_append]
    rfl

theorem Built.define {s : Progress} (h : Built P s.definitions) {k : Keywords}
    (hP : name ∉ keys s.definitions → P s.definitions name k) :
    s.definitions <+: (s.define name (some k)).definitions ∧
      Built P (s.define name (some k)).definitions ∧
      name ∈ keys (s.define name (some k)).definitions := by
  by_cases hname : name ∈ keys s.definitions
  · rw [Progress.define_of_isDefined s name (some k) ((mem_keys_iff _ _).1 hname)]
    exact ⟨List.prefix_refl _, h, hname⟩
  · have hdefine : (s.define name (some k)).definitions = s.definitions ++ [(name, some k)] :=
      insertIfNew_of_not_mem hname (some k)
    rw [hdefine, keys_snoc]
    exact ⟨List.prefix_append _ _, snoc h hname (hP hname), by simp⟩

theorem Built.emitReference {s : Progress} (h : Built P s.definitions)
    (hname : name ∈ keys s.definitions) :
    Generator.emitReference name s =
      (.ok (some (Keywords.reference name)), s.report (.emittingReference name s.path)) := by
  obtain ⟨k, -, hget, -⟩ := h.exists_of_mem hname
  rw [Generator.emitReference, Progress.definition?, hget]
  rfl

end Definitions

end SchemaTree
