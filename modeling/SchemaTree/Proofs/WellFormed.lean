import SchemaTree.Check
import SchemaTree.Proofs.Combination
import SchemaTree.Proofs.Tree
import Mathlib.Data.List.Nodup
import Mathlib.Tactic.MkIffOfInductiveProp
import Mathlib.Tactic.Tauto

/-!
# Well-formed trees

A tree that passes the check is well-formed at every node. So all its nodes are reachable: the
parts of a well-formed node are all its children.

* `Node.WellFormed`: what the check asks of one node;
* **`Node.defectsBelow_eq_nil_iff`**: a tree without defects is well-formed at every node;
* `Node.map_snd_reachable`, `Node.nodup_reachable`: all nodes of such a tree are reachable, each on a
  path of its own.
-/

namespace SchemaTree

namespace Node

/-- A node has the children that its kind asks for, and decimal places only where they apply. -/
@[mk_iff]
structure WellFormed (n : Node) : Prop where
  item : n.kind.isArray = true → n.children.length = 1
  named : n.kind.isObject = true → ∀ c ∈ n.children, c.name ≠ ""
  distinct : n.kind.isObject = true → (n.children.map name).Nodup
  leaf : n.kind.isLeaf = true → n.children = []
  scale : n.attributes.scale.isSome = true → n.kind.isDecimal = true

/-! ## The check -/

theorem defectOf_eq_nil_iff (path : Path) (f : Option Flaw) : defectOf path f = [] ↔ f = none := by
  cases f <;> simp [defectOf]

theorem nameFlaw?_eq_none_iff (seen : List String) (name : String) :
    nameFlaw? seen name = none ↔ name ≠ "" ∧ name ∉ seen := by
  rw [nameFlaw?]
  split_ifs with hempty hseen
  · simp [String.isEmpty_iff.1 hempty]
  · simp [hseen]
  · simp [hseen, ← String.isEmpty_iff, hempty]

theorem scaleFlaw?_eq_none_iff (a : Attributes) :
    scaleFlaw? a = none ↔ (a.scale.isSome = true → a.kind.isDecimal = true) := by
  rw [scaleFlaw?]
  cases a.scale <;> cases a.kind.isDecimal <;> simp

theorem propertyDefects_eq_nil_iff (path : Path) (seen : List String) (cs : List Node) :
    propertyDefects path seen cs = [] ↔
      (∀ c ∈ cs, c.name ≠ "" ∧ c.name ∉ seen) ∧ (cs.map name).Nodup ∧
        ∀ c ∈ cs, defectsBelow (path.push (.property c.name)) c = [] := by
  induction cs generalizing seen with
  | nil => simp [propertyDefects]
  | cons c cs ih =>
    rw [propertyDefects, List.append_eq_nil_iff, List.append_eq_nil_iff, defectOf_eq_nil_iff,
      nameFlaw?_eq_none_iff, ih]
    simp only [List.forall_mem_cons]
    simp only [List.map_cons, List.nodup_cons, List.mem_cons, List.mem_map, not_or, not_exists,
      not_and]
    constructor
    · rintro ⟨⟨hc, hbelow⟩, hcs, hnodup, hall⟩
      exact ⟨⟨hc, fun d hd => ⟨(hcs d hd).1, (hcs d hd).2.2⟩⟩,
        ⟨fun d hd => (hcs d hd).2.1, hnodup⟩, hbelow, hall⟩
    · rintro ⟨⟨hc, hcs⟩, ⟨hnot, hnodup⟩, hbelow, hall⟩
      exact ⟨⟨hc, hbelow⟩, fun d hd => ⟨(hcs d hd).1, hnot d hd, (hcs d hd).2⟩, hnodup, hall⟩

theorem defectsBelow_eq_nil_iff_parts (path : Path) (n : Node) :
    defectsBelow path n = [] ↔
      n.WellFormed ∧ ∀ e ∈ n.parts, defectsBelow (path.push e.1) e.2 = [] := by
  obtain ⟨a, cs⟩ := n
  rw [defectsBelow, List.append_eq_nil_iff, defectOf_eq_nil_iff, scaleFlaw?_eq_none_iff,
    wellFormed_iff, parts, kind, attributes, children]
  by_cases ha : a.kind.isArray = true
  · have ho : a.kind.isObject = false := by
      cases hk : a.kind <;> simp_all [Kind.isArray, Kind.isObject]
    cases cs with
    | nil => simp [ha, defectOf_eq_nil_iff]
    | cons c cs =>
      simp [ha, ho, Kind.isLeaf, item?, children, defectOf_eq_nil_iff, itemDefects]
      tauto
  · by_cases ho : a.kind.isObject = true
    · simp [ha, ho, Kind.isLeaf, propertyDefects_eq_nil_iff]
      tauto
    · simp [ha, ho, Kind.isLeaf, defectOf_eq_nil_iff]

theorem WellFormed.map_snd_parts {n : Node} (h : n.WellFormed) : n.parts.map Prod.snd = n.children := by
  rw [parts]
  split_ifs with ho ha
  · rw [List.map_map]
    exact List.map_id _
  · obtain ⟨c, hc⟩ := List.length_eq_one_iff.1 (h.item ha)
    rw [item?, hc]
    rfl
  · exact (h.leaf (by simp [Kind.isLeaf, ho, ha])).symm

theorem WellFormed.forall_mem_subtrees {n : Node} (h : n.WellFormed) {P : Node → Prop} :
    (∀ m ∈ n.subtrees, P m) ↔ P n ∧ ∀ e ∈ n.parts, ∀ m ∈ e.2.subtrees, P m := by
  rw [subtrees_eq, List.forall_mem_cons, List.forall_mem_flatMap, ← h.map_snd_parts,
    List.forall_mem_map]

/-- **A tree has no defects exactly if it is well-formed at every node.** -/
theorem defectsBelow_eq_nil_iff (n : Node) :
    ∀ path : Path, defectsBelow path n = [] ↔ ∀ m ∈ n.subtrees, m.WellFormed := by
  induction n using parts_induction with
  | h n ih =>
    intro path
    have hparts : (∀ e ∈ n.parts, defectsBelow (path.push e.1) e.2 = []) ↔
        ∀ e ∈ n.parts, ∀ m ∈ e.2.subtrees, m.WellFormed :=
      forall₂_congr fun e he => ih e he _
    rw [defectsBelow_eq_nil_iff_parts, hparts]
    constructor
    · rintro ⟨hn, hbelow⟩
      exact hn.forall_mem_subtrees.2 ⟨hn, hbelow⟩
    · intro h
      have hn := h n n.self_mem_subtrees
      exact hn.forall_mem_subtrees.1 h

theorem check_eq_none_iff (root : Node) : root.check = none ↔ defectsBelow [] root = [] :=
  Report.ofList?_eq_none_iff

/-! ## Reachable nodes -/

variable {n : Node}

theorem map_snd_reachable (h : ∀ m ∈ n.subtrees, m.WellFormed) :
    ∀ path : Path, (n.reachable path).map Prod.snd = n.subtrees := by
  induction n using parts_induction with
  | h n ih =>
    intro path
    have hn := h n n.self_mem_subtrees
    rw [reachable_eq, subtrees_eq, List.map_cons, List.map_flatMap, ← hn.map_snd_parts,
      List.flatMap_map]
    exact congrArg _ (List.flatMap_congr fun e he =>
      ih e he (hn.forall_mem_subtrees.1 h |>.2 e he) _)

theorem WellFormed.nodup_parts (h : n.WellFormed) : (n.parts.map Prod.fst).Nodup := by
  rw [parts]
  split_ifs with ho ha
  · have hsegments : (n.children.map fun c => (Segment.property c.name, c)).map Prod.fst =
        (n.children.map name).map Segment.property := by
      rw [List.map_map, List.map_map]
      rfl
    rw [hsegments]
    exact (h.distinct ho).map fun a b hab => Segment.property.inj hab
  · cases n.item? <;> simp
  · exact List.nodup_nil

theorem nodup_reachable (h : ∀ m ∈ n.subtrees, m.WellFormed) :
    ∀ path : Path, ((n.reachable path).map Prod.fst).Nodup := by
  induction n using parts_induction with
  | h n ih =>
    intro path
    have hn := h n n.self_mem_subtrees
    rw [reachable_eq, List.map_cons, List.map_flatMap, List.nodup_cons, List.nodup_flatMap]
    have hbelow {segment : Segment} {c : Node} {q : Path}
        (hq : q ∈ (c.reachable (path.push segment)).map Prod.fst) : path.push segment <+: q := by
      obtain ⟨e, he, rfl⟩ := List.mem_map.1 hq
      exact prefix_of_mem_reachable he
    refine ⟨fun hmem => ?_, fun e he => ?_, ?_⟩
    · obtain ⟨e, -, hpath⟩ := List.mem_flatMap.1 hmem
      have hlength := (hbelow hpath).length_le
      rw [Path.push, List.length_append] at hlength
      exact Nat.not_succ_le_self _ hlength
    · exact ih e he (hn.forall_mem_subtrees.1 h |>.2 e he) _
    · refine (List.pairwise_map.1 hn.nodup_parts).imp fun {e f} hne q hq hq' => hne ?_
      -- Both continue the path by one segment, so these segments are the same.
      have hsame := List.prefix_of_prefix_length_le (hbelow hq) (hbelow hq') (by simp [Path.push])
      simpa [Path.push] using hsame

end Node

end SchemaTree
