import SchemaTree.Proofs.Dereference
import SchemaTree.Proofs.Resolution
import SchemaTree.Proofs.WellFormed

/-!
# Fragments of a document

A schema that a profile writes is a reference, or own keywords with the schemas of parts behind
them. Own keywords hold no schemas, whatever a user has put into them.

* `assemble_of_object`, `assemble_of_array`, `assemble_of_leaf`: assembled keywords by the kind of node;
* `references_ofDefinition`, **`mem_subschemas_assemble`**, **`mem_references_assemble`**: what
  references and assembled schemas hold;
* `subschemas_assemble`: below a well-formed node, what is assembled holds the schemas of all parts;
* `expand_assemble`: expanding an assembled schema expands its parts.
-/

namespace SchemaTree

open OrderedMap

namespace Profile

variable {p : Profile} {n : Node}

theorem plain_ownKeywords (p : Profile) (n : Node) : Json.Plain (p.ownKeywords n) := by
  cases h : p.converts n.kind with
  | true =>
    intro key hkey
    refine ⟨?_, ?_, ?_⟩ <;> rintro rfl <;> exact not_mem_keys_ownKeywords h (by decide) hkey
  | false =>
    rw [ownKeywords, (recipe?_eq_none_iff p n.kind).2 h]
    simp [Json.Plain, keys]

theorem plain_requiredEntry (n : Node) : Json.Plain n.requiredEntry := by
  rw [Node.requiredEntry]
  cases Step.requiredNames n.children <;> simp [Json.Plain, keys]

theorem references_ofDefinition (name : String) :
    Json.references (.object (Keywords.reference name)) =
      [.string (Keywords.definitionPointer name)] :=
  Json.references_reference _

theorem propertyEntries_some (f : Node → Keywords) (cs : List Node) :
    Generator.propertyEntries cs (cs.map fun c => some (f c)) =
      cs.map fun c => (c.name, Json.object (f c)) := by
  induction cs with
  | nil => rfl
  | cons c cs ih => exact congrArg ((c.name, Json.object (f c)) :: ·) ih

/-! ## Keywords by kind -/

section

variable (p) (f : Node → Keywords)

theorem assemble_of_object (hn : n.kind = .object) :
    p.assemble n (n.parts.map fun e => some (f e.2)) = p.ownKeywords n ++
      ("properties", .object (extend [] (n.children.map fun c => (c.name, .object (f c))))) ::
        n.requiredEntry := by
  have ho : n.kind.isObject = true := by rw [hn]; rfl
  rw [assemble, Node.partKeywords, if_pos ho, Node.parts_of_object hn, List.map_map,
    ← propertyEntries_some]
  rfl

theorem assemble_of_array (hn : n.kind = .array) :
    p.assemble n (n.parts.map fun e => some (f e.2)) = p.ownKeywords n ++
      (n.children.head?.map fun c => ("items", Json.object (f c))).toList := by
  have ho : ¬ n.kind.isObject = true := by rw [hn]; decide
  have ha : n.kind.isArray = true := by rw [hn]; rfl
  rw [assemble, Node.partKeywords, if_neg ho, if_pos ha, Node.parts_of_array hn]
  cases n.children <;> rfl

theorem assemble_of_leaf (hn : n.kind.isLeaf = true) :
    p.assemble n (n.parts.map fun e => some (f e.2)) = p.ownKeywords n := by
  have hkind : n.kind.isObject = false ∧ n.kind.isArray = false := by
    simpa [Kind.isLeaf] using hn
  rw [assemble, Node.partKeywords, if_neg (by simp [hkind]), if_neg (by simp [hkind]),
    List.append_nil]

end

/-! ## Subschemas and references -/

theorem mem_propertyEntries {cs : List Node} {ks : List (Option Keywords)} {e : String × Json}
    (h : e ∈ Generator.propertyEntries cs ks) : ∃ k, some k ∈ ks ∧ e.2 = .object k := by
  obtain ⟨⟨c, k⟩, hzip, he⟩ := List.mem_filterMap.1 h
  obtain ⟨k, rfl, rfl⟩ := Option.map_eq_some_iff.1 he
  exact ⟨k, (List.of_mem_zip hzip).2, rfl⟩

theorem mem_subschemas_partKeywords {ks : List (Option Keywords)} {e : Segment × Json}
    (he : e ∈ Json.subschemas (.object (n.partKeywords ks))) :
    ∃ k, some k ∈ ks ∧ e.2 = .object k := by
  rw [Node.partKeywords] at he
  split_ifs at he
  · change e ∈ List.map _ (extend [] _) ++ Json.subschemas (.object n.requiredEntry) at he
    rw [Json.subschemas_of_plain (plain_requiredEntry n), List.append_nil] at he
    obtain ⟨d, hd, rfl⟩ := List.mem_map.1 he
    rcases mem_of_mem_extend hd with hd | hd
    · cases hd
    · exact mem_propertyEntries hd
  · cases hks : ks.head?.join with
    | none =>
      rw [hks] at he
      cases he
    | some k =>
      rw [hks] at he
      obtain rfl := List.mem_singleton.1 he
      exact ⟨k, List.mem_of_mem_head? (Option.join_eq_some_iff.1 hks), rfl⟩
  · cases he

/-- **The subschemas of an assembled schema are those of its parts.** -/
theorem mem_subschemas_assemble {ks : List (Option Keywords)} {e : Segment × Json}
    (he : e ∈ Json.subschemas (.object (p.assemble n ks))) : ∃ k, some k ∈ ks ∧ e.2 = .object k := by
  rw [assemble, Json.subschemas_append, Json.subschemas_of_plain (plain_ownKeywords p n),
    List.nil_append] at he
  exact mem_subschemas_partKeywords he

/-- **The references of an assembled schema are those of its parts.** -/
theorem mem_references_assemble {ks : List (Option Keywords)}
    {r : Json} (hr : r ∈ Json.references (.object (p.assemble n ks))) :
    ∃ k, some k ∈ ks ∧ r ∈ Json.references (.object k) := by
  have hkey : "$ref" ∉ keys (p.assemble n ks) := by
    rw [assemble, keys, List.map_append, List.mem_append]
    rintro (hmem | hmem)
    · exact (plain_ownKeywords p n _ hmem).1 rfl
    · exact not_mem_keys_partKeywords (by decide) hmem
  rw [Json.references_eq, Json.ownReferences_of_not_mem hkey, List.nil_append] at hr
  obtain ⟨e, he, hr⟩ := List.mem_flatMap.1 hr
  obtain ⟨k, hk, hv⟩ := mem_subschemas_assemble he
  exact ⟨k, hk, hv ▸ hr⟩

/-! ## Well-formed nodes -/

theorem extend_children (h : n.WellFormed) (hn : n.kind = .object) (f : Node → Keywords) :
    extend [] (n.children.map fun c => (c.name, Json.object (f c))) =
      n.children.map fun c => (c.name, .object (f c)) := by
  have hkeys : keys ([] ++ n.children.map fun c => (c.name, Json.object (f c))) =
      n.children.map Node.name := by
    rw [List.nil_append, keys, List.map_map]
    rfl
  rw [extend_of_nodup (by rw [hkeys]; exact h.distinct (by rw [hn]; rfl)), List.nil_append]

/-- **Below a well-formed node, what is assembled holds the schemas of all parts.** -/
theorem subschemas_assemble (h : n.WellFormed) (p : Profile) (f : Node → Keywords) :
    Json.subschemas (.object (p.assemble n (n.parts.map fun e => some (f e.2)))) =
      n.parts.map fun e => (e.1, .object (f e.2)) := by
  have hown := Json.subschemas_of_plain (plain_ownKeywords p n)
  rcases n.object_or_array_or_leaf with hn | hn | hn
  · have hrequired := Json.subschemas_of_plain (plain_requiredEntry n)
    rw [assemble_of_object p f hn, extend_children h hn, Json.subschemas_append, hown,
      List.nil_append, Node.parts_of_object hn, List.map_map]
    change List.map _ (List.map _ n.children) ++ Json.subschemas (.object n.requiredEntry) = _
    rw [hrequired, List.append_nil, List.map_map]
    rfl
  · rw [assemble_of_array p f hn, Json.subschemas_append, hown, Node.parts_of_array hn]
    cases n.children <;> rfl
  · rw [assemble_of_leaf p f hn, hown, Node.parts_of_leaf hn, List.map_nil]

/-! ## Expanding -/

theorem map_propertyEntries (f : Keywords → Keywords) (F : Json → Json)
    (hF : ∀ k, F (.object k) = .object (f k)) (cs : List Node) (ks : List (Option Keywords)) :
    (Generator.propertyEntries cs ks).map (Prod.map id F) =
      Generator.propertyEntries cs (ks.map (Option.map f)) := by
  rw [Generator.propertyEntries, Generator.propertyEntries, List.map_filterMap, List.zip_map_right,
    List.filterMap_map]
  refine List.filterMap_congr fun e _ => ?_
  obtain ⟨c, _ | k⟩ := e
  · rfl
  · exact congrArg (fun v => some (c.name, v)) (hF k)

theorem replaceKeywords_partKeywords (f : Json → Option Keywords) (n : Node)
    (ks : List (Option Keywords)) :
    Json.replaceKeywords f (n.partKeywords ks) =
      n.partKeywords (ks.map (Option.map (Json.replaceKeywords f))) := by
  have hobject (k : Keywords) : Json.replaceReferences f (.object k) =
      .object (Json.replaceKeywords f k) := rfl
  rw [Node.partKeywords, Node.partKeywords]
  split_ifs
  · have hmembers := map_extend (Json.replaceReferences f) [] (Generator.propertyEntries n.children ks)
    rw [map_propertyEntries _ _ hobject] at hmembers
    rw [Json.replaceKeywords, Json.replaceKeywords_of_plain f (plain_requiredEntry n)]
    simp only [String.reduceEq, if_false, if_true]
    rw [Json.replaceProperties, Json.replaceMembers_eq_map]
    exact congrArg (fun members => ("properties", Json.object members) :: n.requiredEntry) hmembers
  · rcases ks with _ | ⟨_ | k, ks⟩ <;> rfl
  · rfl

theorem expand_partKeywords (defs : OrderedMap String Json) (depth : Nat) (n : Node)
    (ks : List (Option Keywords)) :
    Json.expand defs depth (n.partKeywords ks) =
      n.partKeywords (ks.map (Option.map (Json.expand defs depth))) := by
  cases depth with
  | zero =>
    have hid : Option.map (Json.expand defs 0) = id := by
      funext k
      cases k <;> rfl
    rw [hid, List.map_id]
    rfl
  | succ depth => exact replaceKeywords_partKeywords _ n ks

/-- **Expanding an assembled schema expands its parts.** -/
theorem expand_assemble (p : Profile) (n : Node) (defs : OrderedMap String Json)
    (depth : Nat) (ks : List (Option Keywords)) :
    Json.expand defs depth (p.assemble n ks) =
      p.assemble n (ks.map (Option.map (Json.expand defs depth))) := by
  rw [assemble, Json.expand_append, Json.expand_of_plain _ _ (plain_ownKeywords p n),
    expand_partKeywords, assemble]

end Profile

end SchemaTree
