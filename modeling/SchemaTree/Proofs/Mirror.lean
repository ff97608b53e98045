import SchemaTree.Proofs.Fragment
import SchemaTree.Proofs.Inline
import SchemaTree.Proofs.WellFormed

/-!
# Documents mirror trees

Without definitions, the document of a tree that passes the check has the shape of the tree: the
schema positions are the paths of the nodes, and at the path of a node stands its schema.

* `Profile.inline_object`, `Profile.inline_array`: the inline keywords of a well-formed node;
* `Profile.subschemas_inline`, `Profile.map_fst_positions`, `Profile.schemaAt?_inline`;
* `Mirrors`: what a document has at the paths of a tree;
* **`Profile.checked_tree_is_mirrored`**.
-/

namespace SchemaTree

open OrderedMap

namespace Profile

variable {p : Profile} {n : Node}

/-! ## Inline keywords of well-formed nodes -/

theorem inline_object (hn : n.kind = .object) (h : n.WellFormed) :
    p.inline n = p.ownKeywords n ++
      ("properties", .object (n.children.map fun c => (c.name, .object (p.inline c)))) ::
        n.requiredEntry := by
  rw [inline_eq, assemble_of_object p p.inline hn, extend_children h hn]

theorem inline_array (hn : n.kind = .array) (h : n.WellFormed) :
    ∃ c, n.children = [c] ∧
      p.inline n = p.ownKeywords n ++ [("items", .object (p.inline c))] := by
  obtain ⟨c, hc⟩ := List.length_eq_one_iff.1 (h.item (by rw [hn]; rfl))
  refine ⟨c, hc, ?_⟩
  rw [inline_eq, assemble_of_array p p.inline hn, hc]
  rfl

theorem get?_inline_properties (hkind : n.kind = .object) (h : n.WellFormed)
    (hn : p.converts n.kind = true) (k : Keywords) :
    get? (p.inline n ++ k) "properties" =
      some (.object (n.children.map fun c => (c.name, .object (p.inline c)))) := by
  rw [inline_object hkind h, get?_append, get?_append, get?_ownKeywords hn (by decide),
    Option.none_or, get?, if_pos rfl, Option.some_or]

theorem get?_inline_items (hkind : n.kind = .array) (h : n.WellFormed)
    (hn : p.converts n.kind = true) (k : Keywords) :
    ∃ c, n.children = [c] ∧ get? (p.inline n ++ k) "items" = some (.object (p.inline c)) := by
  obtain ⟨c, hc, hinline⟩ := inline_array (p := p) hkind h
  refine ⟨c, hc, ?_⟩
  rw [hinline, get?_append, get?_append, get?_ownKeywords hn (by decide), Option.none_or, get?,
    if_pos rfl, Option.some_or]

/-- What may follow the inline keywords: nothing, or the dialect. -/
def DialectOnly (k : Keywords) : Prop := ∀ key ∈ keys k, key = "$schema"

theorem dialectOnly_nil : DialectOnly [] := by simp [DialectOnly, keys]

theorem dialectOnly_dialectEntry (dialect : Option String) : DialectOnly (dialectEntry dialect) := by
  cases dialect <;> simp [DialectOnly, dialectEntry, keys]

theorem DialectOnly.plain {k : Keywords} (h : DialectOnly k) : Json.Plain k := by
  intro key hkey
  rw [h key hkey]
  decide

/-! ## Positions -/

theorem subschemas_inline (h : n.WellFormed) {k : Keywords} (hk : DialectOnly k) :
    (Json.object (p.inline n ++ k)).subschemas = n.parts.map fun e => (e.1, .object (p.inline e.2)) := by
  rw [Json.subschemas_append, Json.subschemas_of_plain hk.plain, List.append_nil, inline_eq,
    subschemas_assemble h]

/-- **The schema positions are the paths of the nodes.** -/
theorem map_fst_positions (h : ∀ m ∈ n.subtrees, m.WellFormed) :
    ∀ (path : Path) {k : Keywords}, DialectOnly k →
      ((Json.object (p.inline n ++ k)).positions path).map Prod.fst =
        (n.reachable path).map Prod.fst := by
  induction n using Node.parts_induction with
  | h n ih =>
    intro path k hk
    have hn := h n n.self_mem_subtrees
    obtain ⟨-, hparts⟩ := hn.forall_mem_subtrees.1 h
    rw [Json.positions_eq, subschemas_inline hn hk, Node.reachable_eq, List.map_cons,
      List.map_cons, List.flatMap_map, List.map_flatMap, List.map_flatMap]
    refine congrArg _ (List.flatMap_congr fun e he => ?_)
    have := ih e he (hparts e he) (path.push e.1) (k := []) dialectOnly_nil
    rwa [List.append_nil] at this

theorem subschema?_inline (h : n.WellFormed) (hn : p.converts n.kind = true) (k : Keywords)
    {e : Segment × Node} (he : e ∈ n.parts) :
    (Json.object (p.inline n ++ k)).subschema? e.1 = some (.object (p.inline e.2)) := by
  rw [Node.parts] at he
  split_ifs at he with ho ha
  · obtain ⟨c, hc, rfl⟩ := List.mem_map.1 he
    have hnodup : (keys (n.children.map fun c => (c.name, Json.object (p.inline c)))).Nodup := by
      rw [keys, List.map_map]
      exact h.distinct ho
    rw [Json.subschema?, Json.member?, get?_inline_properties (of_decide_eq_true ho) h hn,
      Option.bind_some]
    exact get?_of_mem hnodup (List.mem_map_of_mem hc)
  · obtain ⟨c, hc, hitems⟩ := get?_inline_items (of_decide_eq_true ha) h hn k
    rw [Node.item?, hc] at he
    obtain rfl := List.mem_singleton.1 he
    exact hitems
  · cases he

/-- **At the path of a node stands its schema**; only behind that of the root there may be more. -/
theorem exists_schemaAt? (h : ∀ m ∈ n.subtrees, m.WellFormed ∧ p.converts m.kind = true) :
    ∀ {path : Path} {e : Path × Node} {k : Keywords}, e ∈ n.reachable path →
      DialectOnly k →
      ∃ q k', e.1 = path ++ q ∧ DialectOnly k' ∧
        (Json.object (p.inline n ++ k)).schemaAt? q = some (.object (p.inline e.2 ++ k')) := by
  induction n using Node.parts_induction with
  | h n ih =>
    intro path e k he hk
    obtain ⟨hn, hconverts⟩ := h n n.self_mem_subtrees
    obtain ⟨-, hparts⟩ := hn.forall_mem_subtrees.1 h
    rcases Node.mem_reachable_iff.1 he with rfl | ⟨f, hf, he⟩
    · exact ⟨[], k, (List.append_nil path).symm, hk, rfl⟩
    · obtain ⟨q, k', hpath, hk', hq⟩ := ih f hf (hparts f hf) (k := []) he dialectOnly_nil
      refine ⟨f.1 :: q, k', by rw [hpath, Path.push_append], hk', ?_⟩
      rw [List.append_nil] at hq
      rw [Json.schemaAt?, subschema?_inline hn hconverts k hf, Option.bind_some, hq]

theorem schemaAt?_inline {root : Node}
    (h : ∀ m ∈ root.subtrees, m.WellFormed ∧ p.converts m.kind = true) {path : Path} {k : Keywords}
    (hn : (path, n) ∈ root.reachable []) (hk : DialectOnly k) :
    ∃ k', DialectOnly k' ∧
      (Json.object (p.inline root ++ k)).schemaAt? path = some (.object (p.inline n ++ k')) := by
  obtain ⟨q, k', hq, hk', hschema⟩ := exists_schemaAt? h hn hk
  rw [show path = q from hq]
  exact ⟨k', hk', hschema⟩

end Profile

/-! ## What a node says about its parts -/

/-- The names that a schema requires. -/
def requiredOf (k : Keywords) : List Json :=
  match get? k "required" with
  | some (.array names) => names
  | _ => []

/-- The keywords name the parts of a node, and the required ones among them. -/
structure NamesParts (n : Node) (k : Keywords) : Prop where
  items : n.kind = .array → ∃ v, get? k "items" = some v
  properties : n.kind = .object → ∃ schemas : Keywords,
    get? k "properties" = some (.object schemas) ∧ keys schemas = n.children.map Node.name
  required : n.kind = .object → get? k "required" =
    if Step.requiredNames n.children = [] then none
    else some (.array ((Step.requiredNames n.children).map .string))
  distinct : n.kind = .object → (Step.requiredNames n.children).Nodup

theorem Node.WellFormed.mem_requiredNames {n c : Node} (h : n.WellFormed) (hn : n.kind = .object)
    (hc : c ∈ n.children) : c.name ∈ Step.requiredNames n.children ↔ c.isRequired = true := by
  have hnodup := h.distinct (by rw [hn]; rfl)
  rw [Step.requiredNames, List.mem_map]
  constructor
  · rintro ⟨d, hd, hname⟩
    obtain ⟨hd, hrequired⟩ := List.mem_filter.1 hd
    rw [← List.inj_on_of_nodup_map hnodup hd hc hname]
    exact hrequired
  · intro hrequired
    exact ⟨c, List.mem_filter.2 ⟨hc, hrequired⟩, rfl⟩

namespace Profile

variable {p : Profile} {n : Node} {k : Keywords}

theorem get?_inline_type (hn : p.converts n.kind = true) (k : Keywords) :
    get? (p.inline n ++ k) "type" = some (p.typeValue n) := by
  obtain ⟨details, hown, -⟩ := ownKeywords_eq_cons hn
  rw [inline_eq, assemble, hown]
  rfl

theorem get?_inline_required (h : n.WellFormed) (hn : p.converts n.kind = true)
    (hkind : n.kind = .object) (hk : DialectOnly k) :
    get? (p.inline n ++ k) "required" =
      if Step.requiredNames n.children = [] then none
      else some (.array ((Step.requiredNames n.children).map .string)) := by
  have htail : get? k "required" = none :=
    (get?_eq_none_iff _ _).2 fun hmem => absurd (hk _ hmem) (by decide)
  rw [inline_object hkind h, get?_append, get?_append, get?_ownKeywords hn (by decide), htail,
    Option.none_or, Option.or_none, get?, if_neg (by decide), Node.requiredEntry]
  cases Step.requiredNames n.children <;> rfl

theorem namesParts_inline (h : n.WellFormed) (hn : p.converts n.kind = true)
    (hk : DialectOnly k) : NamesParts n (p.inline n ++ k) where
  items ha := by
    obtain ⟨c, -, hitems⟩ := get?_inline_items ha h hn k
    exact ⟨_, hitems⟩
  properties ho := by
    refine ⟨_, get?_inline_properties ho h hn k, ?_⟩
    rw [keys, List.map_map]
    rfl
  required ho := get?_inline_required h hn ho hk
  distinct ho := (h.distinct (by rw [ho]; rfl)).sublist (List.filter_sublist.map _)

/-! ## Documents -/

/-- The document has the shape of the tree. All nodes have a path, and these paths are the schema
positions, each once; at each stands the schema of its node. If null may stand beside a type, it
does so exactly for the properties whose names are not required. -/
structure Mirrors (p : Profile) (root : Node) (document : Json) : Prop where
  nodes : (root.reachable []).map Prod.snd = root.subtrees
  positions : (document.positions []).map Prod.fst = (root.reachable []).map Prod.fst
  nodup : ((root.reachable []).map Prod.fst).Nodup
  schemas : ∀ path n, (path, n) ∈ root.reachable [] →
    ∃ k, document.schemaAt? path = some (.object k) ∧ NamesParts n k
  types : p = draft4 ∨ p = draft4DecimalString →
    ∀ path n, (path, n) ∈ root.reachable [] → n.kind = .object → ∀ c ∈ n.children,
      ∃ k k', document.schemaAt? path = some (.object k) ∧
        document.schemaAt? (path.push (.property c.name)) = some (.object k') ∧
        get? k' "type" = some (
          if .string c.name ∈ requiredOf k then .string (p.typeName c.kind)
          else .array [.string (p.typeName c.kind), .string "null"])

theorem mem_requiredOf_inline {c : Node} (h : n.WellFormed) (hn : p.converts n.kind = true)
    (hkind : n.kind = .object) (hk : DialectOnly k) (hc : c ∈ n.children) :
    .string c.name ∈ requiredOf (p.inline n ++ k) ↔ c.isRequired = true := by
  rw [← h.mem_requiredNames hkind hc, requiredOf, get?_inline_required h hn hkind hk]
  split_ifs with hnames
  · simp [hnames]
  · simp

variable {root : Node}

/-- **A tree that passes the check is mirrored by its document.** -/
theorem checked_tree_is_mirrored (dialect : Option String) (hcheck : root.check = none)
    (hconverts : ∀ n ∈ root.subtrees, p.converts n.kind = true) :
    ∃ document, (p.generator false dialect).generate root = .ok document ∧
      p.Mirrors root document := by
  have hformed := (root.defectsBelow_eq_nil_iff []).1 (root.check_eq_none_iff.1 hcheck)
  have hroot : ∀ n ∈ root.subtrees, n.WellFormed ∧ p.converts n.kind = true :=
    fun n hn => ⟨hformed n hn, hconverts n hn⟩
  have hmem {path : Path} {n : Node} (h : (path, n) ∈ root.reachable []) :=
    hroot n (Node.mem_subtrees_of_mem_reachable root [] h)
  have htail := dialectOnly_dialectEntry dialect
  have hat {path : Path} {n : Node} (h : (path, n) ∈ root.reachable []) :=
    schemaAt?_inline hroot h htail
  have hfailure : p.failure? [] root = none :=
    failure?_eq_none_iff.2 fun e he => (hmem he).2
  refine ⟨_, ?_, Node.map_snd_reachable hformed [], map_fst_positions (p := p) hformed [] htail,
    Node.nodup_reachable hformed [], fun path n h => ?_, fun hp path n h hkind c hc => ?_⟩
  · rw [generate_inline, hfailure]
  · obtain ⟨k, hk, hschema⟩ := hat h
    exact ⟨_, hschema, namesParts_inline (hmem h).1 (hmem h).2 hk⟩
  · obtain ⟨hn, hnconverts⟩ := hmem h
    have hpart := Node.part_mem_reachable h (Node.property_mem_parts hkind hc)
    obtain ⟨k, hk, hschema⟩ := hat h
    obtain ⟨k', -, hschema'⟩ := hat hpart
    refine ⟨_, _, hschema, hschema', ?_⟩
    have hnull : p.allowsNull = true := by rcases hp with rfl | rfl <;> rfl
    rw [get?_inline_type (hmem hpart).2, typeValue, hnull, Bool.true_and]
    simp only [mem_requiredOf_inline hn hnconverts hkind hk hc]
    cases c.isRequired <;> rfl

/-- An object with a list of objects that have a count which may be missing. -/
def shipment : Node :=
  (Node.ofKind .object).field "id" (.ofKind .string) |>.field "lines"
    ((Node.ofKind .array).child ((Node.ofKind .object).field "count" (Node.ofKind .integer).optional))

/-- The document has the five nodes at their paths. -/
theorem shipment_mirrored :
    ∃ document, (draft4.generator false none).generate shipment = .ok document ∧
      (document.positions []).map Prod.fst = [[], [.property "id"], [.property "lines"],
        [.property "lines", .items], [.property "lines", .items, .property "count"]] ∧
      draft4.Mirrors shipment document := by
  have hconverts : shipment.subtrees.all (fun n => draft4.converts n.kind) = true := rfl
  obtain ⟨document, h, hmirrors⟩ :=
    checked_tree_is_mirrored none (show shipment.check = none from rfl)
      (List.all_eq_true.1 hconverts)
  exact ⟨document, h, hmirrors.positions.trans rfl, hmirrors⟩

end Profile

end SchemaTree
