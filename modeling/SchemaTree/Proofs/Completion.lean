import SchemaTree.Proofs.Merge
import SchemaTree.Proofs.Tree
import Mathlib.Data.List.Perm.Basic

/-!
# Which objects are finished first

An object of a named type is converted unless an object of that name has been finished, and the
first one to be finished keeps the name. So what lies below a node depends on what came before it.
Where all objects of a name have the same children nothing is lost by that: the names are those of
all reachable objects, in post-order.

* `Node.objectName?`: the type name under which an object is shared;
* `Node.finish`: the finished objects after a node, with `finish_eq` and `finish_of_none`,
  `finish_of_finished`, `finish_of_unfinished`;
* `Node.postOrder`: the reachable nodes, parts first; `postOrder_perm`;
* `Node.Adds`, `adds_finish`: finishing adds reachable objects behind the others;
* `keepFirst`: a list of nodes in place of a walk; `keys_foldl_keepFirst`,
  `get?_foldl_keepFirst`;
* **`Node.finish_eq_postOrder`**: the walk that skips and the whole walk finish the same objects.
-/

namespace SchemaTree

open OrderedMap

namespace Node

/-! ## Finished objects -/

/-- The type name under which a node is shared: that of an object, if it has one. -/
def objectName? (n : Node) : Option String := if n.kind.isObject then n.typeName else none

theorem objectName?_eq_some_iff {n : Node} {name : String} :
    n.objectName? = some name ↔ n.kind = .object ∧ n.typeName = some name := by
  unfold objectName?
  by_cases hn : n.kind = .object <;> simp [Kind.isObject, hn]

/-- For every name, the object that was finished first, in the order of finishing. -/
abbrev Finished := OrderedMap String Node

mutual

/-- The finished objects after a node. An object inside another one of its name is finished before
the outer one. -/
def finish (F : Finished) : Node → Finished
  | mk a children =>
    let below := if a.kind.isObject then finishProperties F children
      else if a.kind.isArray then finishItem F children
      else F
    match (mk a children).objectName? with
    | none => below
    | some name => if contains F name then F else insertIfNew below name (mk a children)

/-- The finished objects after the properties of an object. -/
def finishProperties (F : Finished) : List Node → Finished
  | [] => F
  | c :: cs => finishProperties (finish F c) cs

/-- The finished objects after the item of an array. -/
def finishItem (F : Finished) : List Node → Finished
  | [] => F
  | c :: _ => finish F c

end

/-- The finished objects after some parts. -/
def finishParts (F : Finished) (parts : List (Segment × Node)) : Finished :=
  parts.foldl (fun F e => finish F e.2) F

theorem finishProperties_eq (F : Finished) (cs : List Node) :
    finishProperties F cs = finishParts F (cs.map fun c => (.property c.name, c)) := by
  induction cs generalizing F with
  | nil => rfl
  | cons c cs ih => rw [finishProperties, ih]; rfl

/-- A finished name is passed over; else the parts come first and then the object itself. -/
theorem finish_eq (F : Finished) (n : Node) :
    finish F n =
      match n.objectName? with
      | none => finishParts F n.parts
      | some name => if contains F name then F else insertIfNew (finishParts F n.parts) name n := by
  have hbelow : (if n.kind.isObject then finishProperties F n.children
      else if n.kind.isArray then finishItem F n.children else F) = finishParts F n.parts := by
    rcases n.object_or_array_or_leaf with hn | hn | hn
    · rw [parts_of_object hn, ← finishProperties_eq, hn]
      rfl
    · rw [parts_of_array hn, hn]
      cases n.children <;> rfl
    · have hkind : n.kind.isObject = false ∧ n.kind.isArray = false := by
        simpa [Kind.isLeaf] using hn
      rw [parts_of_leaf hn]
      simp [hkind, finishParts]
  rw [← hbelow]
  obtain ⟨a, children⟩ := n
  rw [finish]
  rfl

section

variable {F : Finished} {n : Node} {name : String}

theorem finish_of_none (h : n.objectName? = none) : finish F n = finishParts F n.parts := by
  rw [finish_eq, h]

theorem finish_of_finished (h : n.objectName? = some name) (hF : name ∈ keys F) :
    finish F n = F := by
  rw [finish_eq, h]
  exact if_pos ((mem_keys_iff F name).1 hF)

theorem finish_of_unfinished (h : n.objectName? = some name) (hF : name ∉ keys F) :
    finish F n = insertIfNew (finishParts F n.parts) name n := by
  rw [finish_eq, h]
  exact if_neg (mt (mem_keys_iff F name).2 hF)

end

/-! ## Post-order -/

mutual

/-- The reachable nodes, each behind those that its parts lead to. -/
def postOrder : Node → List Node
  | mk a children =>
    (if a.kind.isObject then postOrderOfProperties children
      else if a.kind.isArray then postOrderOfItem children
      else []) ++ [mk a children]

/-- The reachable nodes from the properties of an object on. -/
def postOrderOfProperties : List Node → List Node
  | [] => []
  | c :: cs => postOrder c ++ postOrderOfProperties cs

/-- The reachable nodes from the item of an array on. -/
def postOrderOfItem : List Node → List Node
  | [] => []
  | c :: _ => postOrder c

end

theorem postOrderOfProperties_eq (cs : List Node) :
    postOrderOfProperties cs = cs.flatMap postOrder := by
  induction cs with
  | nil => rfl
  | cons c cs ih => rw [postOrderOfProperties, ih, List.flatMap_cons]

theorem postOrder_eq (n : Node) :
    n.postOrder = (n.parts.flatMap fun e => e.2.postOrder) ++ [n] := by
  have hbelow : (if n.kind.isObject then postOrderOfProperties n.children
      else if n.kind.isArray then postOrderOfItem n.children else []) =
      n.parts.flatMap fun e => e.2.postOrder := by
    rcases n.object_or_array_or_leaf with hn | hn | hn
    · rw [parts_of_object hn, List.flatMap_map, ← postOrderOfProperties_eq, hn]
      rfl
    · rw [parts_of_array hn, hn]
      cases n.children <;> simp [postOrderOfItem, Kind.isObject, Kind.isArray]
    · have hkind : n.kind.isObject = false ∧ n.kind.isArray = false := by
        simpa [Kind.isLeaf] using hn
      rw [parts_of_leaf hn]
      simp [hkind]
  rw [← hbelow]
  obtain ⟨a, children⟩ := n
  rw [postOrder]
  rfl

/-- **Post-order and pre-order are orders of the same nodes.** -/
theorem postOrder_perm (n : Node) :
    ∀ path : Path, n.postOrder.Perm ((n.reachable path).map Prod.snd) := by
  induction n using parts_induction with
  | h n ih =>
    intro path
    have hparts : (n.parts.flatMap fun e => e.2.postOrder).Perm
        (n.parts.flatMap fun e => (e.2.reachable (path.push e.1)).map Prod.snd) :=
      List.Perm.flatMap_left _ fun e he => ih e he _
    rw [postOrder_eq, reachable_eq, List.map_cons, List.map_flatMap]
    exact (hparts.append_right [n]).trans (List.perm_append_singleton n _)

theorem mem_postOrder_iff {m n : Node} (path : Path) :
    m ∈ n.postOrder ↔ ∃ q, (q, m) ∈ n.reachable path := by
  rw [(postOrder_perm n path).mem_iff, List.mem_map]
  simp

theorem postOrder_subset {root n : Node} (h : n ∈ root.postOrder) :
    n.postOrder ⊆ root.postOrder := by
  intro m hm
  obtain ⟨path, hpath⟩ := (mem_postOrder_iff []).1 h
  obtain ⟨q, hq⟩ := (mem_postOrder_iff path).1 hm
  exact (mem_postOrder_iff []).2 ⟨q, reachable_trans hq root [] hpath⟩

theorem self_mem_postOrder (n : Node) : n ∈ n.postOrder := by
  rw [postOrder_eq]
  exact List.mem_append_right _ (List.mem_singleton.2 rfl)

theorem mem_subtrees_of_mem_postOrder {m n : Node} (h : m ∈ n.postOrder) : m ∈ n.subtrees := by
  obtain ⟨q, hq⟩ := (mem_postOrder_iff []).1 h
  exact mem_subtrees_of_mem_reachable n [] hq

/-! ## Finishing adds objects -/

/-- The finished objects `G` are `F` and, behind it, objects among `ns` under their names. -/
def Adds (ns : List Node) (F G : Finished) : Prop :=
  ∃ later, G = F ++ later ∧ ∀ e ∈ later, e.2 ∈ ns ∧ e.2.objectName? = some e.1

section

variable {ns : List Node} {F G H : Finished}

theorem Adds.refl (ns : List Node) (F : Finished) : Adds ns F F :=
  ⟨[], (List.append_nil F).symm, by simp⟩

theorem Adds.trans (h : Adds ns F G) (h' : Adds ns G H) : Adds ns F H := by
  obtain ⟨l, rfl, hl⟩ := h
  obtain ⟨l', rfl, hl'⟩ := h'
  exact ⟨l ++ l', List.append_assoc F l l', List.forall_mem_append.2 ⟨hl, hl'⟩⟩

theorem Adds.mono {ns' : List Node} (h : Adds ns F G) (hns : ∀ n ∈ ns, n ∈ ns') : Adds ns' F G := by
  obtain ⟨l, rfl, hl⟩ := h
  exact ⟨l, rfl, fun e he => ⟨hns _ (hl e he).1, (hl e he).2⟩⟩

theorem Adds.isPrefix (h : Adds ns F G) : F <+: G := by
  obtain ⟨l, rfl, -⟩ := h
  exact List.prefix_append F l

theorem Adds.mem_keys (h : Adds ns F G) {name : String} (hname : name ∈ keys G) :
    name ∈ keys F ∨ ∃ n ∈ ns, n.objectName? = some name := by
  obtain ⟨l, rfl, hl⟩ := h
  rw [keys, List.map_append, List.mem_append] at hname
  refine hname.imp_right fun hname => ?_
  obtain ⟨e, he, rfl⟩ := List.mem_map.1 hname
  exact ⟨e.2, hl e he⟩

theorem adds_insertIfNew {n : Node} {name : String} (hn : n ∈ ns) (hname : n.objectName? = some name)
    (F : Finished) : Adds ns F (insertIfNew F name n) := by
  by_cases h : name ∈ keys F
  · rw [insertIfNew_of_mem h]
    exact Adds.refl ns F
  · rw [insertIfNew_of_not_mem h]
    exact ⟨_, rfl, by simp [hn, hname]⟩

theorem Adds.finishParts {parts : List (Segment × Node)}
    (h : ∀ e ∈ parts, ∀ F, Adds ns F (finish F e.2)) (F : Finished) :
    Adds ns F (finishParts F parts) := by
  induction parts generalizing F with
  | nil => exact Adds.refl ns F
  | cons e parts ih =>
    obtain ⟨he, hparts⟩ := List.forall_mem_cons.1 h
    exact (he F).trans (ih hparts _)

end

/-- **Finishing a node adds reachable objects.** -/
theorem adds_finish (n : Node) : ∀ F, Adds n.postOrder F (finish F n) := by
  induction n using parts_induction with
  | h n ih =>
    intro F
    have hparts : Adds n.postOrder F (finishParts F n.parts) :=
      Adds.finishParts (fun e he F => (ih e he F).mono fun m hm => by
        rw [postOrder_eq]
        exact List.mem_append_left _ (List.mem_flatMap.2 ⟨e, he, hm⟩)) F
    cases hname : n.objectName? with
    | none =>
      rw [finish_of_none hname]
      exact hparts
    | some name =>
      by_cases hF : name ∈ keys F
      · rw [finish_of_finished hname hF]
        exact Adds.refl _ F
      · rw [finish_of_unfinished hname hF]
        exact hparts.trans (adds_insertIfNew n.self_mem_postOrder hname _)

theorem adds_finishParts (parts : List (Segment × Node)) (F : Finished) :
    Adds (parts.flatMap fun e => e.2.postOrder) F (finishParts F parts) :=
  Adds.finishParts (fun e he F => (adds_finish e.2 F).mono fun _ hm =>
    List.mem_flatMap.2 ⟨e, he, hm⟩) F

/-! ## Keeping the first object of each name -/

/-- The finished objects with one more node. -/
def keepFirst (F : Finished) (n : Node) : Finished :=
  match n.objectName? with
  | none => F
  | some name => insertIfNew F name n

/-- The first node of a list that has this type name. -/
def firstNamed? (ns : List Node) (name : String) : Option Node :=
  ns.find? fun n => n.objectName? = some name

theorem keepFirst_of_none {n : Node} (h : n.objectName? = none) (F : Finished) :
    keepFirst F n = F := by
  simp [keepFirst, h]

theorem keepFirst_of_some {n : Node} {name : String} (h : n.objectName? = some name)
    (F : Finished) : keepFirst F n = insertIfNew F name n := by
  simp [keepFirst, h]

theorem keys_keepFirst {n : Node} {name : String} (h : n.objectName? = some name) (F : Finished) :
    keys (keepFirst F n) = if name ∈ keys F then keys F else keys F ++ [name] := by
  rw [keepFirst_of_some h]
  split_ifs with hname
  · rw [insertIfNew_of_mem hname]
  · rw [insertIfNew_of_not_mem hname, keys, List.map_append]
    rfl

theorem mem_keys_keepFirst {F : Finished} {n : Node} {name : String} :
    name ∈ keys (keepFirst F n) ↔ name ∈ keys F ∨ n.objectName? = some name := by
  cases hn : n.objectName? with
  | none => simp [keepFirst_of_none hn]
  | some name' =>
    rw [keys_keepFirst hn]
    split_ifs with hname
    · constructor
      · exact Or.inl
      · rintro (h | h)
        · exact h
        · rwa [← Option.some.inj h]
    · simp [eq_comm]

theorem mem_keys_foldl_keepFirst {ns : List Node} {F : Finished} {name : String} :
    name ∈ keys (ns.foldl keepFirst F) ↔ name ∈ keys F ∨ ∃ n ∈ ns, n.objectName? = some name := by
  induction ns generalizing F with
  | nil => simp
  | cons n ns ih => simp [ih, mem_keys_keepFirst, or_assoc]

theorem foldl_keepFirst_of_finished {ns : List Node} {F : Finished}
    (h : ∀ n ∈ ns, ∀ name, n.objectName? = some name → name ∈ keys F) :
    ns.foldl keepFirst F = F := by
  induction ns with
  | nil => rfl
  | cons n ns ih =>
    obtain ⟨hn, hns⟩ := List.forall_mem_cons.1 h
    have hkeep : keepFirst F n = F := by
      cases hname : n.objectName? with
      | none => exact keepFirst_of_none hname F
      | some name => rw [keepFirst_of_some hname, insertIfNew_of_mem (hn name hname)]
    rw [List.foldl_cons, hkeep, ih hns]

/-- **The names are those of the list, without later repetitions.** -/
theorem keys_foldl_keepFirst (ns : List Node) :
    keys (ns.foldl keepFirst []) = (ns.filterMap objectName?).eraseDups := by
  induction ns using List.reverseRecOn with
  | nil => rfl
  | append_singleton ns n ih =>
    rw [List.foldl_append, List.foldl_cons, List.foldl_nil, List.filterMap_append]
    cases hn : n.objectName? with
    | none => simp [keepFirst_of_none hn, ih, hn]
    | some name =>
      have hsingle : [n].filterMap objectName? = [name] := by simp [hn]
      rw [keys_keepFirst hn, hsingle, eraseDups_concat, ih]
      simp only [List.mem_eraseDups]

theorem get?_keepFirst (F : Finished) (n : Node) (name : String) :
    get? (keepFirst F n) name = (get? F name).or (firstNamed? [n] name) := by
  have hother {name' : String} (hn : n.objectName? = some name') (h : name' ≠ name) :
      firstNamed? [n] name = none := by
    simp [firstNamed?, hn, h]
  cases hn : n.objectName? with
  | none => simp [keepFirst_of_none hn, firstNamed?, hn]
  | some name' =>
    rw [keepFirst_of_some hn]
    by_cases h : name' ∈ keys F
    · rw [insertIfNew_of_mem h]
      by_cases hname : name' = name
      · obtain ⟨m, hm⟩ := Option.isSome_iff_exists.1 ((mem_keys_iff F name').1 h)
        rw [← hname, hm, Option.some_or]
      · rw [hother hn hname, Option.or_none]
    · rw [insertIfNew_of_not_mem h, get?_append]
      by_cases hname : name' = name
      · simp [firstNamed?, get?, hn, hname]
      · rw [hother hn hname, get?, if_neg hname, get?_nil]

/-- **The object of a name is the first one in the list.** -/
theorem get?_foldl_keepFirst (ns : List Node) (name : String) :
    get? (ns.foldl keepFirst []) name = firstNamed? ns name := by
  induction ns using List.reverseRecOn with
  | nil => rfl
  | append_singleton ns n ih =>
    rw [List.foldl_append, List.foldl_cons, List.foldl_nil, get?_keepFirst, ih, firstNamed?,
      firstNamed?, firstNamed?, List.find?_append]

/-! ## Skipping -/

/-- Objects of one type name that a conversion can meet have the same children. -/
def SameChildren (root : Node) : Prop :=
  ∀ m ∈ root.postOrder, ∀ m' ∈ root.postOrder, ∀ name, m.objectName? = some name →
    m'.objectName? = some name → m.children = m'.children

/-- All names below the parts of a node are finished. -/
def DoneBelow (F : Finished) (n : Node) : Prop :=
  ∀ d ∈ n.parts.flatMap fun e => e.2.postOrder, ∀ name, d.objectName? = some name → name ∈ keys F

/-- Below every object of a finished name all names are finished. -/
def Closed (root : Node) (F : Finished) : Prop :=
  ∀ m ∈ root.postOrder, ∀ name, m.objectName? = some name → name ∈ keys F → DoneBelow F m

variable {root : Node}

theorem SameChildren.parts_eq (hroot : root.SameChildren) {m n : Node} (hm : m ∈ root.postOrder)
    (hn : n ∈ root.postOrder) {name : String} (hmname : m.objectName? = some name)
    (hnname : n.objectName? = some name) : m.parts = n.parts := by
  rw [parts_of_object (objectName?_eq_some_iff.1 hmname).1,
    parts_of_object (objectName?_eq_some_iff.1 hnname).1, hroot m hm n hn name hmname hnname]

theorem closed_keepFirst (hroot : root.SameChildren) {F : Finished} (hF : root.Closed F) {n : Node}
    (hn : n ∈ root.postOrder) (hbelow : DoneBelow F n) : root.Closed (keepFirst F n) := by
  intro m hm name hname hmem d hd name' hd'
  refine mem_keys_keepFirst.2 (Or.inl ?_)
  rcases mem_keys_keepFirst.1 hmem with hmem | hsame
  · exact hF m hm name hname hmem d hd name' hd'
  · rw [hroot.parts_eq hm hn hname hsame] at hd
    exact hbelow d hd name' hd'

theorem part_mem_postOrder {n : Node} (hn : n ∈ root.postOrder) {e : Segment × Node}
    (he : e ∈ n.parts) : e.2 ∈ root.postOrder := by
  obtain ⟨q, hq⟩ := (mem_postOrder_iff []).1 hn
  exact (mem_postOrder_iff []).2 ⟨_, part_mem_reachable hq he⟩

theorem doneBelow_foldl (F : Finished) (n : Node) :
    DoneBelow ((n.parts.flatMap fun e => e.2.postOrder).foldl keepFirst F) n :=
  fun d hd _ hname => mem_keys_foldl_keepFirst.2 (Or.inr ⟨d, hd, hname⟩)

theorem finishParts_eq_postOrder {parts : List (Segment × Node)}
    (h : ∀ e ∈ parts, ∀ F, root.Closed F →
      finish F e.2 = e.2.postOrder.foldl keepFirst F ∧ root.Closed (finish F e.2))
    {F : Finished} (hF : root.Closed F) :
    finishParts F parts = (parts.flatMap fun e => e.2.postOrder).foldl keepFirst F ∧
      root.Closed (finishParts F parts) := by
  induction parts generalizing F with
  | nil => exact ⟨rfl, hF⟩
  | cons e parts ih =>
    obtain ⟨he, hparts⟩ := List.forall_mem_cons.1 h
    obtain ⟨heq, hclosed⟩ := he F hF
    obtain ⟨hrest, hclosed'⟩ := ih hparts hclosed
    have hcons : finishParts F (e :: parts) = finishParts (finish F e.2) parts := rfl
    rw [hcons, List.flatMap_cons, List.foldl_append, ← heq]
    exact ⟨hrest, hclosed'⟩

/-- **Where all objects of a name have the same children, skipping finished names changes nothing.**
The invariant is that names are finished together with all names below them. -/
theorem finish_eq_foldl (hroot : root.SameChildren) {n : Node} (hn : n ∈ root.postOrder) :
    ∀ F, root.Closed F →
      finish F n = n.postOrder.foldl keepFirst F ∧ root.Closed (finish F n) := by
  induction n using parts_induction with
  | h n ih =>
    intro F hF
    obtain ⟨hparts, hclosed⟩ :=
      finishParts_eq_postOrder (fun e he => ih e he (part_mem_postOrder hn he)) hF
    have hbelow : DoneBelow (finishParts F n.parts) n := hparts ▸ doneBelow_foldl F n
    rw [postOrder_eq, List.foldl_append, ← hparts, List.foldl_cons, List.foldl_nil]
    cases hname : n.objectName? with
    | none =>
      rw [finish_of_none hname, keepFirst_of_none hname]
      exact ⟨rfl, hclosed⟩
    | some name =>
      by_cases hfinished : name ∈ keys F
      -- All names below a finished one are finished too, so the walk that does not skip adds none.
      · have hsame : finishParts F n.parts = F := by
          rw [hparts]
          exact foldl_keepFirst_of_finished (hF n hn name hname hfinished)
        rw [finish_of_finished hname hfinished, hsame, keepFirst_of_some hname,
          insertIfNew_of_mem hfinished]
        exact ⟨rfl, hF⟩
      · rw [finish_of_unfinished hname hfinished, ← keepFirst_of_some hname]
        exact ⟨rfl, closed_keepFirst hroot hclosed hn hbelow⟩

/-- **Where all objects of a name have the same children, the finished objects are the first ones of
each name in post-order.** -/
theorem finish_eq_postOrder (hroot : root.SameChildren) :
    finish [] root = root.postOrder.foldl keepFirst [] := by
  have hclosed : root.Closed [] := by
    intro m _ name _ hmem
    cases hmem
  exact (finish_eq_foldl hroot root.self_mem_postOrder [] hclosed).1

end Node

end SchemaTree
