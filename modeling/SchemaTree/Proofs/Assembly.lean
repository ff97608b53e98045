import SchemaTree.Proofs.Merge
import SchemaTree.Proofs.Resolution

/-!
# Assembling objects

The step for properties asks for one child after the other. Each is resolved in the progress that
the ones before it left, whatever their converters are; the first that fails ends the step.

* `Query.asked`: the descendants that a query asks for, with `asked_bind`;
* `Generator.ResolvesAll`: children that are resolved in order, with `ResolvesAll.resolveParts_append`
  and `asked_gatherProperties`;
* `Node.Assembled`: properties and required names, with `assembled`;
* **`Generator.objects_are_assembled`**.
-/

namespace SchemaTree

open OrderedMap

/-! ## What a query asks for -/

namespace Query

variable {α β : Type} (resolveAt : Nat → List Nat → Action)

/-- The descendants that a query asks for, in order, by the numbers that lead to them. -/
def asked : Query α → Progress → List (List Nat)
  | .done _, _ | .fail _, _ => []
  | .path next, s => (next s.path).asked s
  | .isDefined name next, s => (next (s.isDefined name)).asked s
  | .definition name next, s => (next (s.definition? name)).asked s
  | .resolve i is segment next, s =>
    let (r, t) := s.descend segment (resolveAt i is)
    (i :: is) :: (next r).asked t
  | .reportSkipped property next, s => next.asked (s.report (.skippedProperty property s.path))

theorem asked_bind (q : Query α) (f : α → Query β) (s : Progress) :
    (q >>= f).asked resolveAt s =
      q.asked resolveAt s ++
        match q.run resolveAt s with
        | (.ok a, t) => (f a).asked resolveAt t
        | (.error _, _) => [] := by
  induction q generalizing s with
  | done | fail => rfl
  | path next ih => exact ih _ _
  | isDefined name next ih => exact ih _ _
  | definition name next ih => exact ih _ _
  | resolve i is segment next ih => exact congrArg ((i :: is) :: ·) (ih _ _)
  | reportSkipped property next ih => exact ih _

theorem asked_resolveChild (i : Nat) (segment : Segment) (s : Progress) :
    (resolveChild i segment).asked resolveAt s = [[i]] := by
  rw [resolveChild, asked]
  obtain ⟨r, t⟩ := s.descend segment (resolveAt i [])
  cases r <;> rfl

end Query

/-! ## Children in order -/

namespace Generator

variable (g : Generator)

/-- The children are resolved in order, each in the progress that the one before it left. -/
inductive ResolvesAll : List Node → Progress → List (Option Keywords) → Progress → Prop where
  | nil (s : Progress) : ResolvesAll [] s [] s
  | cons {c : Node} {cs : List Node} {s t u : Progress} {k : Option Keywords}
      {ks : List (Option Keywords)} (first : s.descend (.property c.name) (g.resolve c) = (.ok k, t))
      (others : ResolvesAll cs (t.noteResult (.property c.name) k) ks u) :
      ResolvesAll (c :: cs) s (k :: ks) u

/-- The child with number `i` fails, and all before it are resolved. -/
def FailsAt (cs : List Node) (s : Progress) (i : Nat) (e : ConversionError) (t : Progress) : Prop :=
  ∃ c ks u, cs[i]? = some c ∧ g.ResolvesAll (cs.take i) s ks u ∧
    u.descend (.property c.name) (g.resolve c) = (.error e, t)

variable {g} {n : Node} {cs : List Node} {s t u : Progress} {ks : List (Option Keywords)}

theorem resolvesAll_or_failsAt (cs : List Node) (s : Progress) :
    (∃ ks t, g.ResolvesAll cs s ks t) ∨ ∃ i e t, g.FailsAt cs s i e t := by
  induction cs generalizing s with
  | nil => exact .inl ⟨[], s, .nil s⟩
  | cons c cs ih =>
    rcases hr : s.descend (.property c.name) (g.resolve c) with ⟨e | k, t⟩
    · exact .inr ⟨0, e, t, c, [], s, rfl, .nil s, hr⟩
    · rcases ih (t.noteResult (.property c.name) k) with
        ⟨ks, u, hall⟩ | ⟨i, e, u, d, ks, v, hd, hbefore, hfails⟩
      · exact .inl ⟨k :: ks, u, .cons hr hall⟩
      · exact .inr ⟨i + 1, e, u, d, k :: ks, v, hd, .cons hr hbefore, hfails⟩

theorem ResolvesAll.resolveParts_append (h : g.ResolvesAll cs s ks u) (later : List Node) :
    g.resolveParts ((cs ++ later).map fun c => (.property c.name, c)) s =
      Prod.map (Except.map (ks ++ ·)) id
        (g.resolveParts (later.map fun c => (.property c.name, c)) u) := by
  induction h with
  | nil s =>
    rw [List.nil_append]
    generalize g.resolveParts _ s = r
    rcases r with ⟨e | ks, t⟩ <;> rfl
  | cons hfirst _ ih =>
    rw [List.cons_append, List.map_cons, resolveParts_of_ok hfirst, ih, map_map_outcome]
    rfl

theorem ResolvesAll.resolveParts_eq (h : g.ResolvesAll cs s ks u) :
    g.resolveParts (cs.map fun c => (.property c.name, c)) s = (.ok ks, u) := by
  have happend := h.resolveParts_append []
  rw [List.append_nil] at happend
  rw [happend, List.map_nil, resolveParts]
  simp [Prod.map, Except.map]

theorem FailsAt.split {i : Nat} {e : ConversionError} (h : g.FailsAt cs s i e t) :
    ∃ c ks u, cs = cs.take i ++ c :: cs.drop (i + 1) ∧ i = (cs.take i).length ∧
      g.ResolvesAll (cs.take i) s ks u ∧
      u.descend (.property c.name) (g.resolve c) = (.error e, t) := by
  obtain ⟨c, ks, u, hc, hbefore, hfails⟩ := h
  obtain ⟨hi, rfl⟩ := List.getElem?_eq_some_iff.1 hc
  refine ⟨_, ks, u, ?_, ?_, hbefore, hfails⟩
  · rw [List.getElem_cons_drop, List.take_append_drop]
  · rw [List.length_take, Nat.min_eq_left (Nat.le_of_lt hi)]

theorem FailsAt.resolveParts_eq {i : Nat} {e : ConversionError} (h : g.FailsAt cs s i e t) :
    g.resolveParts (cs.map fun c => (.property c.name, c)) s = (.error e, t) := by
  obtain ⟨c, ks, u, hcs, -, hbefore, hfails⟩ := h.split
  rw [hcs, hbefore.resolveParts_append, List.map_cons, resolveParts_of_error hfails]
  rfl

theorem asked_gatherProperties (h : g.ResolvesAll cs s ks u) (earlier later : List Node)
    (hn : n.children = earlier ++ (cs ++ later)) (acc : OrderedMap String Json) :
    (Step.gatherProperties earlier.length acc (cs ++ later)).asked
        (resolveAt (n.children.map g.resolver)) s =
      (List.range' earlier.length cs.length).map ([·]) ++
        (Step.gatherProperties (earlier.length + cs.length) (extend acc (propertyEntries cs ks))
          later).asked (resolveAt (n.children.map g.resolver)) u := by
  induction h generalizing earlier acc with
  | nil s => rfl
  | @cons c cs s t u k ks hfirst _ ih =>
    have hc : n.children[earlier.length]? = some c := by simp [hn]
    have hlater : n.children = (earlier ++ [c]) ++ (cs ++ later) := by simp [hn]
    have hlength : (earlier ++ [c]).length = earlier.length + 1 := by simp
    have hsum : earlier.length + (c :: cs).length = earlier.length + 1 + cs.length := by
      rw [List.length_cons, Nat.add_assoc, Nat.add_comm 1]
    rw [List.cons_append, Step.gatherProperties, Query.asked_bind, Query.asked_resolveChild,
      run_resolveChild, resolveAt_child g hc, hfirst, List.length_cons, List.range'_succ,
      List.map_cons, List.cons_append]
    have hrest := ih (earlier ++ [c]) hlater
    simp only [hlength] at hrest
    cases k with
    | none => exact congrArg ([earlier.length] :: ·) ((hrest acc).trans (by rw [← hsum]; rfl))
    | some k =>
      exact congrArg ([earlier.length] :: ·) ((hrest _).trans (by rw [← hsum]; rfl))

end Generator

/-! ## Properties and required names -/

namespace Node

variable (n : Node)

/-- What an object's keywords `k` become with these results of the children. -/
structure Assembled (k : Keywords) (ks : List (Option Keywords)) (k' : Keywords) : Prop where
  /-- The properties are the different names of children with a schema, in the order of the first
  such child; each has the schema of the last such child. -/
  properties : ∃ members : OrderedMap String Json,
    get? k' "properties" = some (.object members) ∧
      keys members = (((n.children.zip ks).filter (·.2.isSome)).map (·.1.name)).eraseDups ∧
      ∀ name, get? members name =
        (n.children.zip ks).reverse.findSome? fun (c, k) =>
          if c.name = name then k.map .object else none
  /-- All required children are named, whether they have a schema or not. -/
  required : get? k' "required" =
    if n.children.any isRequired then
      some (.array ((n.children.filter isRequired).map fun c => .string c.name))
    else get? k "required"
  /-- Required names are left out only if there are none. -/
  absent : "required" ∉ keys k →
    ("required" ∉ keys k' ↔ ∀ c ∈ n.children, c.isRequired = false)
  others : ∀ key, key ≠ "properties" → key ≠ "required" → get? k' key = get? k key

theorem get?_withProperties (k : Keywords) (members : OrderedMap String Json) (key : String) :
    get? (n.withProperties k members) key =
      if key = "required" ∧ n.children.any isRequired then
        some (.array ((n.children.filter isRequired).map fun c => .string c.name))
      else if key = "properties" then some (.object members)
      else get? k key := by
  have hnames : Step.requiredNames n.children = (n.children.filter isRequired).map name := rfl
  rw [withProperties, hnames]
  cases hany : n.children.filter isRequired with
  | nil =>
    have hnone : n.children.any isRequired = false := by
      simpa [List.filter_eq_nil_iff] using hany
    simp [hnone, get?_insert, eq_comm]
  | cons c cs =>
    have hsome : n.children.any isRequired = true := by
      have hc : c ∈ n.children.filter isRequired := hany ▸ List.mem_cons_self
      exact List.any_eq_true.2 ⟨c, List.mem_filter.1 hc⟩
    simp [hsome, get?_insert, eq_comm, Function.comp_def]

theorem keys_propertyEntries (cs : List Node) (ks : List (Option Keywords)) :
    keys (Generator.propertyEntries cs ks) = ((cs.zip ks).filter (·.2.isSome)).map (·.1.name) := by
  rw [Generator.propertyEntries, keys]
  induction cs.zip ks with
  | nil => rfl
  | cons e es ih =>
    obtain ⟨c, _ | k⟩ := e
    · exact ih
    · exact congrArg (c.name :: ·) ih

theorem get?_reverse_propertyEntries (cs : List Node) (ks : List (Option Keywords)) (name : String) :
    get? (Generator.propertyEntries cs ks).reverse name =
      (cs.zip ks).reverse.findSome? fun (c, k) => if c.name = name then k.map .object else none := by
  rw [Generator.propertyEntries, ← List.filterMap_reverse]
  induction (cs.zip ks).reverse with
  | nil => rfl
  | cons e es ih =>
    obtain ⟨c, _ | k⟩ := e
    · simpa using ih
    · by_cases h : c.name = name
      · simp [get?, h]
      · simpa [get?, h] using ih

theorem assembled (k : Keywords) (ks : List (Option Keywords)) :
    n.Assembled k ks (n.withProperties k (extend [] (Generator.propertyEntries n.children ks))) where
  properties := by
    refine ⟨extend [] (Generator.propertyEntries n.children ks), ?_, ?_, fun name => ?_⟩
    · rw [get?_withProperties, if_neg (by simp), if_pos rfl]
    · rw [keys_extend_nil, keys_propertyEntries]
    · rw [get?_extend, get?_nil, Option.or_none, get?_reverse_propertyEntries]
  required := by
    simp [get?_withProperties]
  absent := by
    intro hk
    rw [← get?_eq_none_iff, get?_withProperties, (get?_eq_none_iff k _).2 hk]
    simp
  others := by
    intro key hproperties hrequired
    rw [get?_withProperties, if_neg fun h => hrequired h.1, if_neg hproperties]

end Node

/-! ## The step for properties -/

namespace Generator

variable {g : Generator} {n : Node} {s t u : Progress} {k : Keywords}
  {ks : List (Option Keywords)}

theorem asked_properties (n : Node) (k : Keywords) (s : Progress) :
    (Step.properties n k).asked (resolveAt (n.children.map g.resolver)) s =
      (Step.gatherProperties 0 [] n.children).asked (resolveAt (n.children.map g.resolver)) s := by
  rw [properties_eq, Query.asked_bind]
  rcases Query.run _ _ _ with ⟨e | members, t⟩
  · exact List.append_nil _
  · exact List.append_nil _

theorem ResolvesAll.asked_properties (h : g.ResolvesAll n.children s ks u) (k : Keywords) :
    (Step.properties n k).asked (resolveAt (n.children.map g.resolver)) s =
      (List.range n.children.length).map ([·]) := by
  have hasked := asked_gatherProperties (n := n) h [] [] (by simp) []
  rw [List.append_nil, List.length_nil, ← List.range_eq_range'] at hasked
  rw [Generator.asked_properties, hasked]
  exact List.append_nil _

theorem FailsAt.asked_properties {i : Nat} {e : ConversionError} (h : g.FailsAt n.children s i e t)
    (k : Keywords) :
    (Step.properties n k).asked (resolveAt (n.children.map g.resolver)) s =
      (List.range (i + 1)).map ([·]) := by
  obtain ⟨c, ks, u, hcs, hi, hbefore, hfails⟩ := h.split
  have hasked := asked_gatherProperties hbefore [] _ hcs []
  have hc : n.children[i]? = some c := by
    rw [hcs, List.getElem?_append_right (Nat.le_of_eq hi.symm), ← hi, Nat.sub_self]
    rfl
  rw [← hcs, ← hi, List.length_nil, Nat.zero_add, ← List.range_eq_range', Step.gatherProperties,
    Query.asked_bind, Query.asked_resolveChild, run_resolveChild, resolveAt_child g hc,
    hfails] at hasked
  rw [Generator.asked_properties, hasked, List.range_succ, List.map_append]
  rfl

/-- **Objects are assembled from children in order.** If the step for properties succeeds, all
children have been resolved one after the other, and the keywords are assembled from the results.
If it fails, then with the first child that fails, and no later child has been asked for. -/
theorem objects_are_assembled (g : Generator) (n : Node) (k : Keywords) (s : Progress) :
    let query := Step.properties n k
    let resolveAt := resolveAt (n.children.map g.resolver)
    match query.run resolveAt s with
    | (.ok k', t) => ∃ ks, g.ResolvesAll n.children s ks t ∧
        query.asked resolveAt s = (List.range n.children.length).map ([·]) ∧ n.Assembled k ks k'
    | (.error e, t) => ∃ i, g.FailsAt n.children s i e t ∧
        query.asked resolveAt s = (List.range (i + 1)).map ([·]) := by
  intro query resolveAt
  have hrun := g.run_properties n k s
  rcases resolvesAll_or_failsAt (g := g) n.children s with ⟨ks, t, hall⟩ | ⟨i, e, t, hfails⟩
  · rw [hall.resolveParts_eq] at hrun
    rw [hrun]
    exact ⟨ks, hall, hall.asked_properties k, n.assembled k ks⟩
  · rw [hfails.resolveParts_eq] at hrun
    rw [hrun]
    exact ⟨i, hfails, hfails.asked_properties k⟩

/-- The generator of draft-04 with nothing for booleans. -/
def mute : Generator := standard.register .boolean (.const none)

/-- An object whose second child has no schema and whose third has the name of the first. -/
def crate : Node :=
  (Node.ofKind .object).field "size" (.ofKind .integer) |>.field "" (.ofKind .boolean)
    |>.field "size" (.ofKind .number)

/-- The object with a child that has no converter, and one behind it. -/
def pricedCrate : Node := crate.field "price" (.ofKind .decimal) |>.field "owner" (.ofKind .string)

/-- The number takes the place of the integer, and all three children stay required. With a price
there is an error, and the owner is not asked for. -/
theorem crate_assembled :
    (∃ ks, ks = [some [("type", .string "integer")], none, some [("type", .string "number")]] ∧
        mute.ResolvesAll crate.children {} ks ⟨[], [], [.skippedProperty "" []]⟩ ∧
        (Step.properties crate []).asked (resolveAt (crate.children.map mute.resolver)) {} =
          [[0], [1], [2]] ∧
        crate.Assembled [] ks
          [("properties", .object [("size", .object [("type", .string "number")])]),
            ("required", .array [.string "size", .string "", .string "size"])]) ∧
      mute.FailsAt pricedCrate.children {} 3 ⟨.decimal, [.property "price"]⟩
        ⟨[], [], [.skippedProperty "" [], .noConverter .decimal [.property "price"]]⟩ := by
  constructor
  · obtain ⟨ks, hall, hasked, hassembled⟩ := objects_are_assembled mute crate [] {}
    have hks := hall.resolveParts_eq
    refine ⟨ks, ?_, hall, hasked, hassembled⟩
    cases hks
    rfl
  · obtain ⟨i, hfails, hasked⟩ := objects_are_assembled mute pricedCrate [] {}
    have hlength : 4 = i + 1 :=
      (congrArg List.length hasked).trans (by rw [List.length_map, List.length_range])
    cases hlength
    exact hfails

end Generator

end SchemaTree
