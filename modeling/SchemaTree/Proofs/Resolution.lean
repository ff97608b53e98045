import SchemaTree.Proofs.OwnKeywords
import SchemaTree.Proofs.Tree

/-!
# Resolving a node of a profile

With the converters of a profile, a node is its own keywords and, behind them, what its parts give.
The parts are resolved one after the other, each in the progress that the earlier ones left.

* `Generator.resolveParts`, `run_properties`, `run_items`: the steps for the parts, for any table;
* `Node.withProperties`, `Node.partKeywords`: the keywords that they store;
* `Profile.assemble`, **`Profile.convert_eq`**: what the converter of a node does;
* `Profile.Inductive`, **`Profile.resolve_induction`**: what holds of every way to resolve a node.
-/

namespace SchemaTree

open OrderedMap

/-! ## Parts -/

/-- The conversion after a part gave a result: a property without a schema is reported. -/
def Progress.noteResult (s : Progress) : Segment → Option Keywords → Progress
  | .property name, none => s.report (.skippedProperty name s.path)
  | _, _ => s

namespace Progress

variable (s : Progress) (segment : Segment) (k : Option Keywords)

@[simp] theorem path_noteResult : (s.noteResult segment k).path = s.path := by
  cases segment <;> cases k <;> rfl

@[simp] theorem definitions_noteResult :
    (s.noteResult segment k).definitions = s.definitions := by
  cases segment <;> cases k <;> rfl

end Progress

namespace Generator

variable (g : Generator)

/-- Resolves parts in order, up to the first failure. -/
def resolveParts :
    List (Segment × Node) → Progress → Except ConversionError (List (Option Keywords)) × Progress
  | [], s => (.ok [], s)
  | (segment, c) :: parts, s =>
    match s.descend segment (g.resolve c) with
    | (.error e, t) => (.error e, t)
    | (.ok k, t) => Prod.map (Except.map (k :: ·)) id (resolveParts parts (t.noteResult segment k))

variable {g} in
theorem resolveParts_of_error {segment : Segment} {c : Node} {s t : Progress} {e : ConversionError}
    (h : s.descend segment (g.resolve c) = (.error e, t)) (parts : List (Segment × Node)) :
    g.resolveParts ((segment, c) :: parts) s = (.error e, t) := by
  rw [resolveParts, h]

variable {g} in
theorem resolveParts_of_ok {segment : Segment} {c : Node} {s t : Progress} {k : Option Keywords}
    (h : s.descend segment (g.resolve c) = (.ok k, t)) (parts : List (Segment × Node)) :
    g.resolveParts ((segment, c) :: parts) s =
      Prod.map (Except.map (k :: ·)) id (g.resolveParts parts (t.noteResult segment k)) := by
  rw [resolveParts, h]

theorem map_map_outcome {α β γ : Type} (f : α → β) (f' : β → γ)
    (r : Except ConversionError α × Progress) :
    Prod.map (Except.map f') id (Prod.map (Except.map f) id r) =
      Prod.map (Except.map (f' ∘ f)) id r := by
  obtain ⟨r, t⟩ := r
  cases r <;> rfl

/-- The members that children with these results give to the properties of their parent. -/
def propertyEntries (cs : List Node) (ks : List (Option Keywords)) : OrderedMap String Json :=
  (cs.zip ks).filterMap fun (c, k) => k.map fun k => (c.name, .object k)

theorem run_resolveChild (resolveAt : Nat → List Nat → Action) (i : Nat) (segment : Segment)
    (s : Progress) :
    (Query.resolveChild i segment).run resolveAt s = s.descend segment (resolveAt i []) := by
  rw [Query.resolveChild, Query.run]
  obtain ⟨r, t⟩ := s.descend segment (resolveAt i [])
  cases r <;> rfl

theorem resolveAt_child {n c : Node} {i : Nat} (h : n.children[i]? = some c) :
    resolveAt (n.children.map g.resolver) i [] = g.resolve c :=
  g.resolveAt_resolvers (by rw [Node.descendant?, h]; rfl)

theorem run_gatherProperties {n : Node} (earlier cs : List Node) (h : n.children = earlier ++ cs)
    (acc : OrderedMap String Json) (s : Progress) :
    (Step.gatherProperties earlier.length acc cs).run (resolveAt (n.children.map g.resolver)) s =
      Prod.map (Except.map fun ks => extend acc (propertyEntries cs ks)) id
        (g.resolveParts (cs.map fun c => (.property c.name, c)) s) := by
  induction cs generalizing earlier acc s with
  | nil => rfl
  | cons c cs ih =>
    have hc : n.children[earlier.length]? = some c := by simp [h]
    have hlater : n.children = (earlier ++ [c]) ++ cs := by simp [h]
    have hlength : earlier.length + 1 = (earlier ++ [c]).length := by simp
    rw [Step.gatherProperties, Query.run_bind, run_resolveChild, resolveAt_child g hc, List.map_cons]
    rcases hr : s.descend (.property c.name) (g.resolve c) with ⟨e | _ | k, t⟩
    · rw [resolveParts_of_error hr]
      rfl
    · change (Step.gatherProperties (earlier.length + 1) acc cs).run _
        (t.noteResult (.property c.name) none) = _
      rw [hlength, ih _ hlater, resolveParts_of_ok hr, map_map_outcome]
      rfl
    · change (Step.gatherProperties (earlier.length + 1) (OrderedMap.insert acc c.name (.object k))
        cs).run _ t = _
      rw [hlength, ih _ hlater, resolveParts_of_ok hr, map_map_outcome]
      rfl

end Generator

/-! ## Keywords for parts -/

namespace Node

/-- The entry for the required properties, if there are any. -/
def requiredEntry (n : Node) : Keywords :=
  match Step.requiredNames n.children with
  | [] => []
  | names => [("required", .array (names.map .string))]

/-- The keywords of an object with these members as properties. -/
def withProperties (n : Node) (k : Keywords) (members : OrderedMap String Json) : Keywords :=
  match Step.requiredNames n.children with
  | [] => OrderedMap.insert k "properties" (.object members)
  | names =>
    OrderedMap.insert (OrderedMap.insert k "properties" (.object members)) "required"
      (.array (names.map .string))

/-- Under new keys, properties and required names come behind the other keywords. -/
theorem withProperties_eq {n : Node} {k : Keywords} (hp : "properties" ∉ keys k)
    (hr : "required" ∉ keys k) (members : OrderedMap String Json) :
    n.withProperties k members = k ++ ("properties", .object members) :: n.requiredEntry := by
  have hr' : "required" ∉ keys (k ++ [("properties", Json.object members)]) := by
    simpa [keys] using hr
  rw [withProperties, requiredEntry, insert_of_not_mem hp]
  cases Step.requiredNames n.children with
  | nil => rfl
  | cons name names =>
    simp only
    rw [insert_of_not_mem hr', List.append_assoc]
    rfl

/-- The keywords for the parts of a node, from the results of the parts. -/
def partKeywords (n : Node) (ks : List (Option Keywords)) : Keywords :=
  if n.kind.isObject then
    ("properties", .object (extend [] (Generator.propertyEntries n.children ks))) :: n.requiredEntry
  else if n.kind.isArray then (ks.head?.join.map fun k => ("items", .object k)).toList
  else []

end Node

namespace Generator

variable (g : Generator) {n : Node} {k : Keywords}

theorem properties_eq (n : Node) (k : Keywords) :
    Step.properties n k = Step.gatherProperties 0 [] n.children >>= fun members =>
      pure (n.withProperties k members) := by
  rw [Step.properties]
  congr 1
  funext members
  rw [Node.withProperties]
  cases Step.requiredNames n.children <;> rfl

theorem run_properties (n : Node) (k : Keywords) (s : Progress) :
    (Step.properties n k).run (resolveAt (n.children.map g.resolver)) s =
      Prod.map (Except.map fun ks => n.withProperties k (extend [] (propertyEntries n.children ks)))
        id (g.resolveParts (n.children.map fun c => (.property c.name, c)) s) := by
  have hgather := g.run_gatherProperties [] n.children rfl [] s
  rw [List.length_nil] at hgather
  rw [properties_eq, Query.run_bind, hgather]
  generalize g.resolveParts _ s = r
  rcases r with ⟨e | ks, t⟩ <;> rfl

theorem run_items (hn : n.kind.isArray = true) (hi : "items" ∉ keys k) (s : Progress) :
    (Step.items n k).run (resolveAt (n.children.map g.resolver)) s =
      Prod.map (Except.map fun ks => k ++ n.partKeywords ks) id (g.resolveParts n.parts s) := by
  have hobject : ¬ n.kind.isObject = true := by
    intro h
    rw [of_decide_eq_true hn] at h
    cases h
  have hpart (ks : List (Option Keywords)) :
      n.partKeywords ks = (ks.head?.join.map fun k => ("items", Json.object k)).toList := by
    rw [Node.partKeywords, if_neg hobject, if_pos hn]
  rw [Step.items, Node.parts, if_neg hobject, if_pos hn]
  cases hc : n.item? with
  | none =>
    change (Except.ok k, s) = (Except.ok (k ++ n.partKeywords []), s)
    rw [hpart, List.head?_nil, Option.join_none, Option.map_none, Option.toList_none,
      List.append_nil]
  | some c =>
    have hchild : n.children[0]? = some c := by rw [← List.head?_eq_getElem?]; exact hc
    have hstore (r : Option Keywords) : Step.insertSome k "items" (r.map .object) =
        k ++ n.partKeywords [r] := by
      rw [hpart]
      cases r with
      | none => exact (List.append_nil k).symm
      | some r => exact insert_of_not_mem hi _
    simp only [Option.toList_some, List.map_cons, List.map_nil]
    rw [Query.run_bind, run_resolveChild, resolveAt_child g hchild]
    rcases hr : s.descend .items (g.resolve c) with ⟨e | r, t⟩
    · rw [resolveParts_of_error hr]
      rfl
    · rw [resolveParts_of_ok hr]
      change (Except.ok (Step.insertSome k "items" (r.map .object)), t) =
        (Except.ok (k ++ n.partKeywords [r]), t)
      rw [hstore]

end Generator

/-! ## Nodes -/

/-- The generator of a profile with other conventions for definitions and dialect. -/
def Profile.generator (p : Profile) (extractsDefinitions : Bool) (dialect : Option String) :
    Generator :=
  { Generator.ofProfile p with extractsDefinitions, dialect }

/-- The action that converts a node by the converter of its kind. -/
def Generator.convert (g : Generator) (n : Node) : Action :=
  g.applyConverter n (n.children.map g.resolver)

theorem Generator.resolveNode_congr {g g' : Generator} {n m : Node} {below below' : List Resolver}
    (hname : g.sharedName? n = g'.sharedName? m)
    (hconvert : g.applyConverter n below = g'.applyConverter m below') :
    g.resolveNode n below = g'.resolveNode m below' := by
  have hshared (name : String) : g.resolveShared name n below = g'.resolveShared name m below' := by
    funext s
    rw [resolveShared, resolveShared, hconvert]
  rw [resolveNode, resolveNode, hname, hconvert]
  simp only [hshared]

namespace Profile

variable (p : Profile) (extracts : Bool) (dialect : Option String)

/-- The keywords of a node, from the results of its parts. -/
def assemble (n : Node) (ks : List (Option Keywords)) : Keywords :=
  p.ownKeywords n ++ n.partKeywords ks

variable {p}

theorem not_mem_keys_ownKeywords {n : Node} (h : p.converts n.kind = true) {key : String}
    (hkey : key ∉ "type" :: detailKeys) : key ∉ keys (p.ownKeywords n) := by
  obtain ⟨details, hown, hdetails⟩ := ownKeywords_eq_cons h
  rw [hown]
  intro hmem
  rcases List.mem_cons.1 hmem with rfl | hmem
  · exact hkey List.mem_cons_self
  · exact hkey (List.mem_cons_of_mem _ (hdetails key hmem))

theorem get?_ownKeywords {n : Node} (h : p.converts n.kind = true) {key : String}
    (hkey : key ∉ "type" :: detailKeys) : get? (p.ownKeywords n) key = none :=
  (get?_eq_none_iff _ _).2 (not_mem_keys_ownKeywords h hkey)

theorem not_mem_keys_partKeywords {n : Node} {ks : List (Option Keywords)} {key : String}
    (hkey : key ∉ ["properties", "required", "items"]) : key ∉ keys (n.partKeywords ks) := by
  intro hmem
  refine hkey ?_
  rw [Node.partKeywords] at hmem
  split_ifs at hmem
  · rcases List.mem_cons.1 hmem with rfl | hmem
    · exact List.mem_cons_self
    · rw [Node.requiredEntry] at hmem
      cases hnames : Step.requiredNames n.children with
      | nil => simp [hnames] at hmem
      | cons name names => simp_all
  · cases hks : ks.head?.join with
    | none => simp [hks, keys] at hmem
    | some k => simp_all [keys]
  · cases hmem

theorem not_mem_keys_assemble {n : Node} (h : p.converts n.kind = true)
    {ks : List (Option Keywords)} {key : String}
    (hkey : key ∉ "type" :: (detailKeys ++ ["properties", "required", "items"])) :
    key ∉ keys (p.assemble n ks) := by
  rw [List.mem_cons, List.mem_append, not_or, not_or] at hkey
  rw [assemble, keys, List.map_append, List.mem_append]
  rintro (hmem | hmem)
  · exact not_mem_keys_ownKeywords h (by simp [hkey.1, hkey.2.1]) hmem
  · exact not_mem_keys_partKeywords hkey.2.2 hmem

theorem isEmpty_assemble {n : Node} (h : p.converts n.kind = true) (ks : List (Option Keywords)) :
    (p.assemble n ks).isEmpty = false := by
  obtain ⟨details, hown, -⟩ := ownKeywords_eq_cons h
  rw [assemble, hown]
  rfl

theorem run_partSteps (g : Generator) {n : Node} (h : p.converts n.kind = true) (s : Progress) :
    (Recipe.applySteps n (p.ownKeywords n) n.kind.partSteps).run
        (Generator.resolveAt (n.children.map g.resolver)) s =
      Prod.map (Except.map (p.assemble n)) id (g.resolveParts n.parts s) := by
  have hsingle (step : Step) (k : Keywords) : Recipe.applySteps n k [step] = step n k := by
    rw [Recipe.applySteps]
    exact bind_pure (step n k)
  have hp : "properties" ∉ keys (p.ownKeywords n) := not_mem_keys_ownKeywords h (by decide)
  have hr : "required" ∉ keys (p.ownKeywords n) := not_mem_keys_ownKeywords h (by decide)
  have hi : "items" ∉ keys (p.ownKeywords n) := not_mem_keys_ownKeywords h (by decide)
  cases hk : n.kind with
  | object =>
    have hn : n.kind.isObject = true := by rw [hk]; rfl
    have hassemble (ks : List (Option Keywords)) : n.withProperties (p.ownKeywords n)
        (extend [] (Generator.propertyEntries n.children ks)) = p.assemble n ks := by
      rw [Node.withProperties_eq hp hr, assemble, Node.partKeywords, if_pos hn]
    rw [Kind.partSteps, hsingle, g.run_properties, Node.parts, if_pos hn]
    simp only [hassemble]
  | array =>
    have hn : n.kind.isArray = true := by rw [hk]; rfl
    rw [Kind.partSteps, hsingle]
    exact g.run_items hn hi s
  | _ =>
    have hparts : n.parts = [] := by rw [Node.parts, hk]; rfl
    have hnone : n.partKeywords [] = [] := by rw [Node.partKeywords, hk]; rfl
    rw [hparts]
    change (Except.ok (p.ownKeywords n), s) = (Except.ok (p.ownKeywords n ++ n.partKeywords []), s)
    rw [hnone, List.append_nil]

theorem get?_table_generator {κ : Kind} {c : Recipe} (hc : p.recipe? κ = some c) :
    get? (p.generator extracts dialect).table κ = some c.toConverter := by
  change get? p.table κ = _
  rw [get?_table, hc, Option.map_some]

/-- **A node is its own keywords and what its parts give.** -/
theorem convert_eq {n : Node} (h : p.converts n.kind = true) (s : Progress) :
    (p.generator extracts dialect).convert n s =
      Prod.map (Except.map fun ks => some (p.assemble n ks)) id
        ((p.generator extracts dialect).resolveParts n.parts s) := by
  obtain ⟨c, hc⟩ := Option.isSome_iff_exists.1 h
  rw [Generator.convert, Generator.applyConverter, get?_table_generator extracts dialect hc]
  simp only
  rw [toConverter_eq hc, Query.run_bind, run_partSteps _ h]
  rcases (p.generator extracts dialect).resolveParts n.parts s with ⟨e | ks, t⟩
  · rfl
  · change (Except.ok (Option.filter _ (some (p.assemble n ks))), t) = _
    rw [Option.filter_some, if_pos (by rw [isEmpty_assemble h]; rfl)]
    rfl

theorem convert_of_not_converts {n : Node} (h : p.converts n.kind = false) (s : Progress) :
    (p.generator extracts dialect).convert n s =
      (.error ⟨n.kind, s.path⟩, s.report (.noConverter n.kind s.path)) := by
  have htable : get? (p.generator extracts dialect).table n.kind = none := by
    change get? p.table n.kind = _
    rw [get?_table, (recipe?_eq_none_iff p n.kind).2 h, Option.map_none]
  rw [Generator.convert, Generator.applyConverter, htable]

end Profile

/-! ## Induction -/

/-- What the result of a computation satisfies for its start. -/
abbrev Postcondition (σ α : Type) := σ → Progress → Except ConversionError α × Progress → Prop

/-- Properties of resolving a node (`Q`), of converting it (`C`) and of resolving parts (`R`) that
each follow from those of the computations inside. -/
structure Profile.Inductive (p : Profile) (extracts : Bool) (dialect : Option String)
    (Q C : Postcondition Node (Option Keywords))
    (R : Postcondition (List (Segment × Node)) (List (Option Keywords))) : Prop where
  unregistered : ∀ n s, p.converts n.kind = false →
    C n s (.error ⟨n.kind, s.path⟩, s.report (.noConverter n.kind s.path))
  failed : ∀ n s e t, p.converts n.kind = true → R n.parts s (.error e, t) → C n s (.error e, t)
  assembled : ∀ n s ks t, p.converts n.kind = true → R n.parts s (.ok ks, t) →
    C n s (.ok (some (p.assemble n ks)), t)
  inlined : ∀ n s r, (p.generator extracts dialect).sharedName? n = none → C n s r → Q n s r
  known : ∀ n s name, (p.generator extracts dialect).sharedName? n = some name →
    s.isDefined name = true → Q n s (Generator.emitReference name s)
  broken : ∀ n s name e t, (p.generator extracts dialect).sharedName? n = some name →
    s.isDefined name = false → C n s (.error e, t) → Q n s (.error e, t)
  defined : ∀ n s name k t, (p.generator extracts dialect).sharedName? n = some name →
    s.isDefined name = false → C n s (.ok k, t) →
    Q n s (Generator.emitReference name
      ((t.report (.cachingDefinition name t.path)).define name k))
  nil : ∀ s, R [] s (.ok [], s)
  partFailed : ∀ segment c parts s e t, Q c (s.enter segment) (.error e, t) →
    R ((segment, c) :: parts) s (.error e, t.leave s.path)
  partResolved : ∀ segment c parts s k t r u, Q c (s.enter segment) (.ok k, t) →
    R parts ((t.leave s.path).noteResult segment k) (r, u) →
    R ((segment, c) :: parts) s (r.map (k :: ·), u)

namespace Profile

variable {p : Profile} {extracts : Bool} {dialect : Option String}
  {Q C : Postcondition Node (Option Keywords)}
  {R : Postcondition (List (Segment × Node)) (List (Option Keywords))}

theorem Inductive.resolveParts (h : p.Inductive extracts dialect Q C R)
    (parts : List (Segment × Node))
    (hparts : ∀ e ∈ parts, ∀ s, Q e.2 s ((p.generator extracts dialect).resolve e.2 s))
    (s : Progress) : R parts s ((p.generator extracts dialect).resolveParts parts s) := by
  induction parts generalizing s with
  | nil => exact h.nil s
  | cons e parts ih =>
    obtain ⟨segment, c⟩ := e
    obtain ⟨hc, hparts⟩ := List.forall_mem_cons.1 hparts
    have hq := hc (s.enter segment)
    rcases hr : (p.generator extracts dialect).resolve c (s.enter segment) with ⟨e | k, t⟩
    · rw [hr] at hq
      rw [Generator.resolveParts_of_error (Progress.descend_of_enter hr)]
      exact h.partFailed segment c parts s e t hq
    · rw [hr] at hq
      rw [Generator.resolveParts_of_ok (Progress.descend_of_enter hr)]
      exact h.partResolved segment c parts s k t _ _ hq (ih hparts _)

theorem Inductive.convert (h : p.Inductive extracts dialect Q C R) (n : Node)
    (hparts : ∀ e ∈ n.parts, ∀ s, Q e.2 s ((p.generator extracts dialect).resolve e.2 s))
    (s : Progress) : C n s ((p.generator extracts dialect).convert n s) := by
  cases hn : p.converts n.kind with
  | false =>
    rw [convert_of_not_converts extracts dialect hn]
    exact h.unregistered n s hn
  | true =>
    have hr := h.resolveParts n.parts hparts s
    rw [convert_eq extracts dialect hn]
    rcases hp : (p.generator extracts dialect).resolveParts n.parts s with ⟨e | ks, t⟩
    · rw [hp] at hr
      exact h.failed n s e t hn hr
    · rw [hp] at hr
      exact h.assembled n s ks t hn hr

/-- **What the rules preserve holds of every way to resolve a node.** -/
theorem resolve_induction (h : p.Inductive extracts dialect Q C R) (n : Node) :
    ∀ s, Q n s ((p.generator extracts dialect).resolve n s) := by
  induction n using Node.parts_induction with
  | h n ih =>
    intro s
    have hc := h.convert n ih s
    rw [Generator.resolve_eq, Generator.resolveNode]
    cases hs : (p.generator extracts dialect).sharedName? n with
    | none => exact h.inlined n s _ hs hc
    | some name =>
      simp only
      rw [Generator.resolveShared]
      cases hd : s.isDefined name with
      | true => exact h.known n s name hs hd
      | false =>
        rw [Generator.convert] at hc
        rcases hr : (p.generator extracts dialect).applyConverter n
          (n.children.map (p.generator extracts dialect).resolver) s with ⟨e | k, t⟩
        · rw [hr] at hc
          exact h.broken n s name e t hs hd hc
        · rw [hr] at hc
          exact h.defined n s name k t hs hd hc

end Profile

end SchemaTree
