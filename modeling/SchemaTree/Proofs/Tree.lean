import SchemaTree.Node
import SchemaTree.Path
import Mathlib.Data.List.Basic
import Mathlib.Tactic.SplitIfs

/-!
# Walking a tree

A conversion goes from a node to its **parts**: the children of an object, the first child of an
array. What else lies below a node is never met.

* `Node.parts`, with `Node.object_or_array_or_leaf`, `Node.induction`, `Node.parts_induction` and
  `Node.descendant_induction`;
* `Node.fold`: a recursion in which a node may use any of its descendants; `Node.fold_eq`;
* `Node.subtrees`: all nodes of a tree, in pre-order;
* `Node.reachable`: the nodes that parts lead to, in pre-order and with their paths;
  `reachable_eq`, `mem_reachable_iff`, `part_mem_reachable`, `reachable_append`;
* `Node.find?_reachable`: a search in pre-order looks at the node, then at its parts.
-/

namespace SchemaTree

namespace Node

/-- The children that a conversion goes into, with the segments that lead to them. -/
def parts (n : Node) : List (Segment × Node) :=
  if n.kind.isObject then n.children.map fun c => (.property c.name, c)
  else if n.kind.isArray then n.item?.toList.map fun c => (.items, c)
  else []

theorem parts_of_object {n : Node} (h : n.kind = .object) :
    n.parts = n.children.map fun c => (.property c.name, c) := by
  simp [parts, h, Kind.isObject]

theorem parts_of_array {n : Node} (h : n.kind = .array) :
    n.parts = n.children.head?.toList.map fun c => (.items, c) := by
  simp [parts, h, Kind.isObject, Kind.isArray, item?]

theorem parts_of_leaf {n : Node} (h : n.kind.isLeaf = true) : n.parts = [] := by
  have hkind : n.kind.isObject = false ∧ n.kind.isArray = false := by
    simpa [Kind.isLeaf] using h
  simp [parts, hkind]

theorem object_or_array_or_leaf (n : Node) :
    n.kind = .object ∨ n.kind = .array ∨ n.kind.isLeaf = true := by
  cases n.kind <;> simp [Kind.isLeaf, Kind.isObject, Kind.isArray]

/-! ## Induction -/

mutual

theorem induction {P : Node → Prop} (h : ∀ n, (∀ c ∈ n.children, P c) → P n) : ∀ n, P n
  | mk a children => h (mk a children) (induction_children h children)

theorem induction_children {P : Node → Prop} (h : ∀ n, (∀ c ∈ n.children, P c) → P n) :
    ∀ cs : List Node, ∀ c ∈ cs, P c
  | [] => by simp
  | c :: cs => List.forall_mem_cons.2 ⟨induction h c, induction_children h cs⟩

end

theorem mem_children_of_mem_parts {n : Node} {e : Segment × Node} (h : e ∈ n.parts) :
    e.2 ∈ n.children := by
  unfold parts at h
  split_ifs at h
  · obtain ⟨c, hc, rfl⟩ := List.mem_map.1 h
    exact hc
  · obtain ⟨c, hc, rfl⟩ := List.mem_map.1 h
    exact List.mem_of_mem_head? (Option.mem_toList.1 hc)
  · cases h

theorem parts_induction {P : Node → Prop} (h : ∀ n, (∀ e ∈ n.parts, P e.2) → P n) (n : Node) :
    P n :=
  induction (fun n ih => h n fun e he => ih e.2 (mem_children_of_mem_parts he)) n

theorem descendant_induction {P : Node → Prop}
    (h : ∀ n, (∀ i is c, n.descendant? (i :: is) = some c → P c) → P n) (n : Node) : P n := by
  have hall : ∀ is c, n.descendant? is = some c → P c := by
    induction n using induction with
    | h n ih =>
      have hbelow : ∀ i is c, n.descendant? (i :: is) = some c → P c := by
        intro i is c hc
        obtain ⟨d, hd, hc⟩ := Option.bind_eq_some_iff.1 hc
        exact ih d (List.mem_of_getElem? hd) is c hc
      intro is c hc
      cases is with
      | nil => exact Option.some.inj hc ▸ h n hbelow
      | cons i is => exact hbelow i is c hc
  exact hall [] n rfl

/-! ## Recursion -/

section

variable {α : Type} (f : Node → (Nat → List Nat → α) → α) (missing : α)

mutual

/-- The fold of the node that numbers of children lead to. -/
def foldAt : Node → List Nat → α
  | mk a children, [] => f (mk a children) (foldBelow children)
  | mk _ children, i :: is => foldBelow children i is

/-- The fold of the node that numbers lead to from a node with these children. -/
def foldBelow : List Node → Nat → List Nat → α
  | [], _, _ => missing
  | c :: _, 0, is => foldAt c is
  | _ :: cs, i + 1, is => foldBelow cs i is

end

/-- What `f` makes of a node and the values of its descendants; where there is no descendant, the
value is `missing`. -/
def fold (n : Node) : α := foldAt f missing n []

theorem foldBelow_eq (cs : List Node) (i : Nat) (is : List Nat) :
    foldBelow f missing cs i is = (cs[i]?.map fun c => foldAt f missing c is).getD missing := by
  induction cs generalizing i with
  | nil => rfl
  | cons c cs ih =>
    cases i with
    | zero => rfl
    | succ i => rw [foldBelow, ih, List.getElem?_cons_succ]

theorem foldAt_eq (n : Node) (is : List Nat) :
    foldAt f missing n is = ((n.descendant? is).map (fold f missing)).getD missing := by
  induction is generalizing n with
  | nil => rfl
  | cons i is ih =>
    obtain ⟨a, children⟩ := n
    rw [foldAt, foldBelow_eq, descendant?, Node.children]
    cases children[i]? with
    | none => rfl
    | some c => exact ih c

theorem fold_eq (n : Node) :
    fold f missing n =
      f n fun i is => ((n.descendant? (i :: is)).map (fold f missing)).getD missing := by
  obtain ⟨a, children⟩ := n
  have hbelow : foldBelow f missing children = fun i is =>
      (((mk a children).descendant? (i :: is)).map (fold f missing)).getD missing :=
    funext fun i => funext fun is => foldAt_eq f missing (mk a children) (i :: is)
  rw [← hbelow]
  rfl

end

/-! ## All nodes -/

mutual

/-- All nodes of a tree, in pre-order. -/
def subtrees : Node → List Node
  | mk a children => mk a children :: subtreesOfAll children

/-- All nodes of a list of trees. -/
def subtreesOfAll : List Node → List Node
  | [] => []
  | c :: cs => subtrees c ++ subtreesOfAll cs

end

theorem subtreesOfAll_eq_flatMap (cs : List Node) : subtreesOfAll cs = cs.flatMap subtrees := by
  induction cs with
  | nil => rfl
  | cons c cs ih => rw [subtreesOfAll, ih, List.flatMap_cons]

theorem subtrees_eq (n : Node) : n.subtrees = n :: n.children.flatMap subtrees := by
  obtain ⟨a, children⟩ := n
  rw [subtrees, subtreesOfAll_eq_flatMap, Node.children]

theorem self_mem_subtrees (n : Node) : n ∈ n.subtrees := by
  rw [subtrees_eq]
  exact List.mem_cons_self

theorem mem_subtrees_of_mem_children {n c m : Node} (hc : c ∈ n.children) (hm : m ∈ c.subtrees) :
    m ∈ n.subtrees := by
  rw [subtrees_eq]
  exact List.mem_cons_of_mem _ (List.mem_flatMap.2 ⟨c, hc, hm⟩)

/-! ## Reachable nodes -/

mutual

/-- The nodes that a conversion can meet from a node at `path` on, in pre-order, with their
paths. -/
def reachable (path : Path) : Node → List (Path × Node)
  | mk a children =>
    (path, mk a children) ::
      if a.kind.isObject then reachableProperties path children
      else if a.kind.isArray then reachableItem path children
      else []

/-- The reachable nodes below an object. -/
def reachableProperties (path : Path) : List Node → List (Path × Node)
  | [] => []
  | c :: cs => reachable (path.push (.property c.name)) c ++ reachableProperties path cs

/-- The reachable nodes below an array: its first child and what that leads to. -/
def reachableItem (path : Path) : List Node → List (Path × Node)
  | [] => []
  | c :: _ => reachable (path.push .items) c

end

theorem reachableProperties_eq (path : Path) (cs : List Node) :
    reachableProperties path cs = cs.flatMap fun c => c.reachable (path.push (.property c.name)) := by
  induction cs with
  | nil => rfl
  | cons c cs ih => rw [reachableProperties, ih, List.flatMap_cons]

theorem reachable_eq (path : Path) (n : Node) :
    n.reachable path = (path, n) :: n.parts.flatMap fun e => e.2.reachable (path.push e.1) := by
  obtain ⟨a, children⟩ := n
  rw [reachable, parts, kind, attributes]
  congr 1
  split_ifs
  · rw [reachableProperties_eq, Node.children, List.flatMap_map]
  · rw [item?, Node.children]
    cases children with
    | nil => rfl
    | cons c cs => simp [reachableItem]
  · rfl

theorem self_mem_reachable (path : Path) (n : Node) : (path, n) ∈ n.reachable path := by
  rw [reachable_eq]
  exact List.mem_cons_self

theorem mem_reachable_iff {path : Path} {n : Node} {e : Path × Node} :
    e ∈ n.reachable path ↔
      e = (path, n) ∨ ∃ f ∈ n.parts, e ∈ f.2.reachable (path.push f.1) := by
  rw [reachable_eq, List.mem_cons, List.mem_flatMap]

theorem mem_reachable_of_mem_parts {path : Path} {n : Node} {f : Segment × Node}
    (hf : f ∈ n.parts) {e : Path × Node} (he : e ∈ f.2.reachable (path.push f.1)) :
    e ∈ n.reachable path :=
  mem_reachable_iff.2 (Or.inr ⟨f, hf, he⟩)

theorem reachable_trans {m : Node} {q : Path} {e : Path × Node} (he : e ∈ m.reachable q) :
    ∀ (n : Node) (path : Path), (q, m) ∈ n.reachable path → e ∈ n.reachable path := by
  refine parts_induction fun n ih path hm => ?_
  rcases mem_reachable_iff.1 hm with h | ⟨f, hf, hm⟩
  · obtain ⟨rfl, rfl⟩ := Prod.mk.inj h
    exact he
  · exact mem_reachable_of_mem_parts hf (ih f hf _ hm)

theorem part_mem_reachable {root n : Node} {path q : Path} (hn : (q, n) ∈ root.reachable path)
    {e : Segment × Node} (he : e ∈ n.parts) : (q.push e.1, e.2) ∈ root.reachable path :=
  reachable_trans (mem_reachable_of_mem_parts he (self_mem_reachable _ _)) root path hn

theorem property_mem_parts {n c : Node} (hn : n.kind = .object) (hc : c ∈ n.children) :
    (.property c.name, c) ∈ n.parts := by
  rw [parts, if_pos (by rw [hn]; rfl)]
  exact List.mem_map_of_mem hc

theorem reachable_append (p : Path) (n : Node) :
    ∀ q : Path, n.reachable (p ++ q) = (n.reachable q).map (Prod.map (p ++ ·) id) := by
  induction n using parts_induction with
  | h n ih =>
    intro q
    rw [reachable_eq, reachable_eq q, List.map_cons, List.map_flatMap]
    refine congrArg _ (List.flatMap_congr fun e he => ?_)
    rw [Path.append_push]
    exact ih e he (Path.push q e.1)

theorem prefix_of_mem_reachable {e : Path × Node} {n : Node} {path : Path}
    (he : e ∈ n.reachable path) : path <+: e.1 := by
  rw [← List.append_nil path, reachable_append] at he
  obtain ⟨d, -, rfl⟩ := List.mem_map.1 he
  exact List.prefix_append path d.1

theorem mem_subtrees_of_mem_reachable {e : Path × Node} :
    ∀ (n : Node) (path : Path), e ∈ n.reachable path → e.2 ∈ n.subtrees := by
  refine parts_induction fun n ih path he => ?_
  rcases mem_reachable_iff.1 he with rfl | ⟨f, hf, he⟩
  · exact self_mem_subtrees n
  · exact mem_subtrees_of_mem_children (mem_children_of_mem_parts hf) (ih f hf _ he)

theorem find?_reachable (f : Path × Node → Bool) (path : Path) (n : Node) :
    (n.reachable path).find? f =
      if f (path, n) then some (path, n)
      else n.parts.findSome? fun e => (e.2.reachable (path.push e.1)).find? f := by
  rw [reachable_eq, List.find?_cons, List.find?_flatMap]
  cases f (path, n) <;> rfl

end Node

end SchemaTree
