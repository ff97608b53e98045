import SchemaTree.Proofs.Extraction

/-!
# The sites of a tree in its document

Every schema position of a document belongs to a node. In the document itself it is the node at the
same path; in a definition it is the node at that path below the defined object. What stands there
is the site of the node.

* `Node.part?`, `Node.nodeAt?`: the node at a path;
* `Profile.body_of_object`, `body_of_array`: the keywords of a node by its kind;
* `Profile.PartsBelow`, with `partsBelow_assemble`: what stands one step below a schema;
* `Profile.nodeAt?_of_mem_positions`: what stands at the positions of a schema;
* `Profile.Sites`, `Sites.imp`: what stands in a document;
* **`Profile.sites_generate`**: in a document stand the sites of the nodes.
-/

namespace SchemaTree

open OrderedMap

namespace Node

/-! ## Nodes at paths -/

/-- The part that a segment leads to; of properties with one name it is the last. -/
def part? (n : Node) (segment : Segment) : Option Node :=
  (n.parts.reverse.find? fun e => e.1 = segment).map Prod.snd

/-- The node that a path leads to. -/
def nodeAt? (n : Node) : Path → Option Node
  | [] => some n
  | segment :: path => (n.part? segment).bind fun c => c.nodeAt? path

theorem mem_parts_of_part? {n c : Node} {segment : Segment} (h : n.part? segment = some c) :
    (segment, c) ∈ n.parts := by
  obtain ⟨⟨segment', c'⟩, hfind, rfl⟩ := Option.map_eq_some_iff.1 h
  have hsegment : segment' = segment := by simpa using List.find?_some hfind
  rw [← hsegment]
  exact List.mem_reverse.1 (List.mem_of_find?_eq_some hfind)

theorem nodeAt?_cons {n c : Node} {segment : Segment} (h : n.part? segment = some c) (path : Path) :
    n.nodeAt? (segment :: path) = c.nodeAt? path := by
  rw [nodeAt?, h, Option.bind_some]

theorem mem_reachable_of_nodeAt? {q : Path} {n m : Node} (path : Path) (h : n.nodeAt? q = some m) :
    (path ++ q, m) ∈ n.reachable path := by
  induction q generalizing n path with
  | nil =>
    obtain rfl := Option.some.inj h
    rw [List.append_nil]
    exact n.self_mem_reachable path
  | cons segment q ih =>
    obtain ⟨c, hc, hm⟩ := Option.bind_eq_some_iff.1 h
    have hbelow := ih (path.push segment) hm
    rw [Path.push_append] at hbelow
    exact mem_reachable_of_mem_parts (mem_parts_of_part? hc) hbelow

theorem mem_postOrder_of_nodeAt? {root n m : Node} {q : Path} (hn : n ∈ root.postOrder)
    (h : n.nodeAt? q = some m) : m ∈ root.postOrder :=
  postOrder_subset hn ((mem_postOrder_iff []).2 ⟨_, mem_reachable_of_nodeAt? [] h⟩)

/-- Among the properties of an object the last one of a name counts. -/
theorem part?_property {n : Node} (hn : n.kind = .object) (name : String) :
    n.part? (.property name) = n.children.reverse.find? fun c => c.name = name := by
  rw [part?, parts_of_object hn, ← List.map_reverse, List.find?_map, Option.map_map]
  simp [Function.comp_def]

end Node

namespace Profile

variable {p : Profile} {n : Node}

/-! ## Bodies by kind -/

/-- Among schemas that are stored under the names of children the last one of a name counts. -/
theorem get?_extend_children (f : Node → Keywords) (cs : List Node) (name : String) :
    get? (extend [] (cs.map fun c => (c.name, Json.object (f c)))) name =
      (cs.reverse.find? fun c => c.name = name).map fun c => .object (f c) := by
  rw [get?_extend, get?_nil, Option.or_none, ← List.map_reverse]
  induction cs.reverse with
  | nil => rfl
  | cons c cs ih => by_cases h : c.name = name <;> simp [get?, ih, h]

/-- The properties of an object, as they are written. -/
def propertySites (p : Profile) (n : Node) : OrderedMap String Json :=
  extend [] (n.children.map fun c => (c.name, .object (p.site c)))

theorem body_of_object (hn : n.kind = .object) :
    p.body n = p.ownKeywords n ++ ("properties", .object (p.propertySites n)) :: n.requiredEntry := by
  rw [body_eq, assemble_of_object p p.site hn, propertySites]

theorem body_of_array (hn : n.kind = .array) :
    p.body n = p.ownKeywords n ++
      (n.children.head?.map fun c => ("items", Json.object (p.site c))).toList := by
  rw [body_eq, assemble_of_array p p.site hn]

/-! ## Subschemas -/

/-- One step below a schema stand the keywords that `f` gives for the parts of `n`. -/
def PartsBelow (f : Node → Keywords) (n : Node) (v : Json) : Prop :=
  ∀ e ∈ v.subschemas, ∃ c, n.part? e.1 = some c ∧ e.2 = .object (f c)

theorem partsBelow_assemble (p : Profile) (f : Node → Keywords) (n : Node) :
    PartsBelow f n (.object (p.assemble n (n.parts.map fun e => some (f e.2)))) := by
  intro e he
  have hown := Json.subschemas_of_plain (plain_ownKeywords p n)
  rcases n.object_or_array_or_leaf with hn | hn | hn
  · have hrequired := Json.subschemas_of_plain (plain_requiredEntry n)
    rw [assemble_of_object p f hn, Json.subschemas_append, hown, List.nil_append] at he
    change e ∈ List.map _ (extend [] _) ++ Json.subschemas (.object n.requiredEntry) at he
    rw [hrequired, List.append_nil] at he
    obtain ⟨⟨name, v⟩, hmem, rfl⟩ := List.mem_map.1 he
    have hget := get?_of_mem (nodup_keys_extend (by simp [keys]) _) hmem
    rw [get?_extend_children] at hget
    obtain ⟨c, hc, rfl⟩ := Option.map_eq_some_iff.1 hget
    exact ⟨c, by rw [Node.part?_property hn, hc], rfl⟩
  · rw [assemble_of_array p f hn, Json.subschemas_append, hown, List.nil_append] at he
    cases hc : n.children.head? with
    | none =>
      rw [hc] at he
      cases he
    | some c =>
      rw [hc] at he
      obtain rfl := List.mem_singleton.1 he
      refine ⟨c, ?_, rfl⟩
      rw [Node.part?, Node.parts_of_array hn, hc]
      rfl
  · rw [assemble_of_leaf p f hn, hown] at he
    cases he

theorem PartsBelow.append {f : Node → Keywords} {k k' : Keywords}
    (h : PartsBelow f n (.object k)) (hk' : Json.Plain k') : PartsBelow f n (.object (k ++ k')) := by
  intro e he
  rw [Json.subschemas_append_of_plain k hk'] at he
  exact h e he

theorem partsBelow_body (p : Profile) (n : Node) : PartsBelow p.site n (.object (p.body n)) := by
  rw [body_eq]
  exact partsBelow_assemble p p.site n

theorem partsBelow_site (p : Profile) (n : Node) : PartsBelow p.site n (.object (p.site n)) := by
  cases hn : n.objectName? with
  | none =>
    rw [site_of_none hn]
    exact partsBelow_body p n
  | some name =>
    rw [site_of_some hn]
    intro e he
    cases he

/-! ## Positions -/

/-- **Where the keywords of nodes stand one step below each other, they stand at all positions.** -/
theorem nodeAt?_of_mem_positions {f : Node → Keywords}
    (hf : ∀ n, PartsBelow f n (.object (f n))) {e : Path × Json} :
    ∀ (n : Node) (path : Path), e ∈ (Json.object (f n)).positions path →
      ∃ q m, e.1 = path ++ q ∧ n.nodeAt? q = some m ∧ e.2 = .object (f m) := by
  refine Node.parts_induction fun n ih path he => ?_
  rw [Json.positions_eq, List.mem_cons] at he
  rcases he with rfl | he
  · exact ⟨[], n, (List.append_nil path).symm, rfl, rfl⟩
  · obtain ⟨d, hd, he⟩ := List.mem_flatMap.1 he
    obtain ⟨c, hc, hvalue⟩ := hf n d hd
    rw [hvalue] at he
    obtain ⟨q, m, hpath, hm, hv⟩ := ih _ (Node.mem_parts_of_part? hc) _ he
    refine ⟨d.1 :: q, m, ?_, by rw [Node.nodeAt?_cons hc, hm], hv⟩
    rw [hpath, Path.push_append]

/-- At every position below a schema stand the keywords of a node below `n`, and `P` holds of
them. -/
def SitesBelow (P : Node → Keywords → Prop) (n : Node) (v : Json) : Prop :=
  ∀ e ∈ v.positions [], e.1 ≠ [] → ∃ m k, n.nodeAt? e.1 = some m ∧ P m k ∧ e.2 = .object k

theorem PartsBelow.sitesBelow {f : Node → Keywords} (hf : ∀ n, PartsBelow f n (.object (f n)))
    {v : Json} (hv : PartsBelow f n v) : SitesBelow (fun m k => k = f m) n v := by
  intro e he hne
  rw [Json.positions_eq, List.mem_cons] at he
  rcases he with rfl | he
  · exact absurd rfl hne
  · obtain ⟨d, hd, he⟩ := List.mem_flatMap.1 he
    obtain ⟨c, hc, hvalue⟩ := hv d hd
    rw [hvalue] at he
    obtain ⟨q, m, hpath, hm, hbelow⟩ := nodeAt?_of_mem_positions hf c _ he
    have hq : e.1 = d.1 :: q := hpath
    exact ⟨m, f m, by rw [hq, Node.nodeAt?_cons hc, hm], rfl, hbelow⟩

/-! ## Documents -/

/-- What stands in a document: `P` holds of the keywords at its positions and at those below its
definitions, and `Q` of the keywords of a definition. Behind the keywords of the root come the
definitions and the dialect. -/
structure Sites (root : Node) (dialect : Option String) (document : Json)
    (P Q : Node → Keywords → Prop) : Prop where
  whole : ∃ k, P root k ∧
    document = .object (k ++ definitionsEntry document.definitions ++ dialectEntry dialect)
  below : SitesBelow P root document
  definitions : ∀ d ∈ document.definitions, ∃ n ∈ root.postOrder, n.objectName? = some d.1 ∧
    (∃ k, Q n k ∧ d.2 = .object k) ∧ SitesBelow P n d.2

variable {root : Node} {dialect : Option String} {document : Json}

theorem SitesBelow.imp {P P' : Node → Keywords → Prop} {v : Json} (h : SitesBelow P n v)
    (hn : n ∈ root.postOrder) (hP : ∀ m ∈ root.postOrder, ∀ k, P m k → P' m k) :
    SitesBelow P' n v := by
  intro e he hne
  obtain ⟨m, k, hm, hk, hv⟩ := h e he hne
  exact ⟨m, k, hm, hP m (Node.mem_postOrder_of_nodeAt? hn hm) k hk, hv⟩

theorem Sites.imp {P P' Q Q' : Node → Keywords → Prop} (h : Sites root dialect document P Q)
    (hP : ∀ n ∈ root.postOrder, ∀ k, P n k → P' n k)
    (hQ : ∀ n ∈ root.postOrder, ∀ name, n.objectName? = some name → ∀ k, Q n k → Q' n k) :
    Sites root dialect document P' Q' where
  whole := by
    obtain ⟨k, hk, hdocument⟩ := h.whole
    exact ⟨k, hP root root.self_mem_postOrder k hk, hdocument⟩
  below := h.below.imp root.self_mem_postOrder hP
  definitions d hd := by
    obtain ⟨n, hn, hname, ⟨k, hk, hv⟩, hbelow⟩ := h.definitions d hd
    exact ⟨n, hn, hname, ⟨k, hQ n hn d.1 hname k hk, hv⟩, hbelow.imp hn hP⟩

/-- **The sites of a document are those of the nodes, and its definitions are bodies.** -/
theorem sites_generate (h : (p.generator true dialect).generate root = .ok document) :
    Sites root dialect document (fun n k => k = p.site n) (fun n k => k = p.body n) := by
  obtain ⟨-, -, hdocument⟩ := generate_eq h
  have hdefinitions := definitions_generate h
  obtain ⟨objects, hfinish, hobjects⟩ := root.adds_finish []
  refine ⟨⟨p.site root, rfl, by rw [hdefinitions, ← hdocument]⟩, ?_, fun d hd => ?_⟩
  · rw [hdocument]
    exact (((partsBelow_site p root).append (Json.plain_definitionsEntry _)).append
      (Json.plain_dialectEntry _)).sitesBelow (partsBelow_site p)
  · rw [hdefinitions, schemasOf] at hd
    obtain ⟨⟨name, n⟩, hmem, rfl⟩ := List.mem_map.1 hd
    rw [hfinish, List.nil_append] at hmem
    obtain ⟨hn, hname⟩ := hobjects _ hmem
    exact ⟨n, hn, hname, ⟨_, rfl, rfl⟩, (partsBelow_body p n).sitesBelow (partsBelow_site p)⟩

end Profile

end SchemaTree
