import SchemaTree.Proofs.Moments

/-!
# The path of a conversion

In a conversion the path belongs to the progress: it is made longer before a descendant is resolved
and put back afterwards. A **told** conversion has no path. Every node is told the way to it, and
tells its descendants theirs, with the segment that they are entered by. Both do the same, whatever
the converters ask; so the path is the way to the node at work.

* `Record`, `Told`, `Follows`: told steps, and actions that do the same;
* `Query.runTold`, with `run_eq_runTold`; `Generator.told`, with **`Generator.follows_resolve`**;
* `Generator.route_of_mem_moments`: the path and the way at every moment;
* **`Generator.path_is_route`**.
-/

namespace SchemaTree

open OrderedMap

/-- What a conversion keeps besides its path. -/
structure Record where
  definitions : Definitions := []
  events : List Event := []

/-- The conversion with this record, at a path. -/
def Record.on (t : Record) (path : Path) : Progress := ⟨path, t.definitions, t.events⟩

/-- The conversion without its path. -/
def Progress.record (s : Progress) : Record := ⟨s.definitions, s.events⟩

/-- A step that resolves a node and is told the way to it. -/
abbrev Told := Path → Record → Outcome × Record

/-- The action does what the told step does, if the path of the conversion is what that is told. -/
def Follows (act : Action) (f : Told) : Prop :=
  ∀ route t, act (t.on route) = Prod.map id (·.on route) (f route t)

/-! ## Queries -/

namespace Query

section

variable {α : Type} (below : Nat → List Nat → Told) (route : Path)

/-- Answers the questions of a query of a node that `route` leads to; `below` resolves the
descendants of the node, and is told the way to them. -/
def runTold : Query α → Record → Except ConversionError α × Record
  | .done a, t => (.ok a, t)
  | .fail e, t => (.error e, t)
  | .path next, t => (next route).runTold t
  | .isDefined name next, t => (next ((t.on route).isDefined name)).runTold t
  | .definition name next, t => (next ((t.on route).definition? name)).runTold t
  | .resolve i is segment next, t =>
    let (r, t) := below i is (route.push segment) t
    (next r).runTold t
  | .reportSkipped property next, t =>
    next.runTold ((t.on route).report (.skippedProperty property route)).record

variable {resolveAt : Nat → List Nat → Action} {below}

/-- **A query that asks for its path is answered with what it was told.** -/
theorem run_eq_runTold (h : ∀ i is, Follows (resolveAt i is) (below i is)) (q : Query α)
    (t : Record) :
    q.run resolveAt (t.on route) = Prod.map id (·.on route) (q.runTold below route t) := by
  induction q generalizing t with
  | done | fail => rfl
  | path next ih => exact ih _ t
  | isDefined name next ih => exact ih _ t
  | definition name next ih => exact ih _ t
  | resolve i is segment next ih =>
    have henter : resolveAt i is ((t.on route).enter segment) =
        Prod.map id (·.on (route.push segment)) (below i is (route.push segment) t) :=
      h i is (route.push segment) t
    -- The descendant leaves another path, which is not kept.
    have hdescend : (t.on route).descend segment (resolveAt i is) =
        Prod.map id (·.on route) (below i is (route.push segment) t) := by
      rw [Progress.descend, henter]
      rfl
    rw [run, hdescend]
    exact ih _ _
  | reportSkipped property next ih =>
    exact ih ((t.on route).report (.skippedProperty property route)).record

end

theorem route_of_mem_moments {α : Type} {resolveAt : Nat → List Nat → Action}
    {below : Nat → List Nat → Segment → Progress → List Moment} {n : Node} {route : Path}
    (hbelow : ∀ i is segment t, t.path = route →
      ∀ m ∈ below i is segment t, m.progress.path = m.route)
    (q : Query α) {s : Progress} (hs : s.path = route) :
    ∀ m ∈ q.moments resolveAt below n route s, m.progress.path = m.route := by
  induction q generalizing s with
  | done | fail => exact List.forall_mem_singleton.2 hs
  | path next ih => exact List.forall_mem_cons.2 ⟨hs, ih _ hs⟩
  | isDefined name next ih => exact List.forall_mem_cons.2 ⟨hs, ih _ hs⟩
  | definition name next ih => exact List.forall_mem_cons.2 ⟨hs, ih _ hs⟩
  | resolve i is segment next ih =>
    -- After the answer the path is that from before the question, by which it was made longer.
    refine List.forall_mem_cons.2 ⟨hs, List.forall_mem_append.2 ⟨hbelow i is segment s hs, ?_⟩⟩
    exact ih _ hs
  | reportSkipped property next ih => exact List.forall_mem_cons.2 ⟨hs, ih hs⟩

end Query

namespace Generator

variable (g : Generator) {n : Node}

/-! ## Told conversions -/

/-- Converts a node by the converter of its kind. -/
def convertTold (n : Node) (below : Nat → List Nat → Told) : Told := fun route t =>
  match get? g.table n.kind with
  | none => (.error ⟨n.kind, route⟩, ((t.on route).report (.noConverter n.kind route)).record)
  | some c =>
    let (r, t) := (c n).runTold below route t
    (r.map fun k => k.filter fun k => !k.isEmpty, t)

/-- Writes a reference to a converted type, if the type has a definition. -/
def referenceTold (name : String) : Told := fun route t =>
  match (t.on route).definition? name with
  | none => (.ok none, t)
  | some _ =>
    (.ok (some (Keywords.reference name)),
      ((t.on route).report (.emittingReference name route)).record)

/-- Resolves a node, whose descendants are resolved by `below`. -/
def nodeTold (n : Node) (below : Nat → List Nat → Told) : Told := fun route t =>
  match g.sharedName? n with
  | none => g.convertTold n below route t
  | some name =>
    if (t.on route).isDefined name then referenceTold name route t
    else
      match g.convertTold n below route t with
      | (.error e, t) => (.error e, t)
      | (.ok k, t) =>
        referenceTold name route
          (((t.on route).report (.cachingDefinition name route)).define name k).record

/-- Resolves a node that is told the way to it. Where there is no node, there is no result. -/
def told (n : Node) : Told := n.fold g.nodeTold fun _ t => (.ok none, t)

/-- Resolves a descendant that is told the way to it. -/
def toldBelow (n : Node) (i : Nat) (is : List Nat) : Told :=
  ((n.descendant? (i :: is)).map g.told).getD fun _ t => (.ok none, t)

theorem told_eq (n : Node) : g.told n = g.nodeTold n (g.toldBelow n) := Node.fold_eq g.nodeTold _ n

/-! ## The same conversion -/

theorem follows_emitReference (name : String) :
    Follows (emitReference name) (referenceTold name) := by
  intro route t
  unfold emitReference referenceTold
  cases (t.on route).definition? name <;> rfl

theorem follows_applyConverter {below : Nat → List Nat → Told}
    (h : ∀ i is, Follows (resolveAt (n.children.map g.resolver) i is) (below i is)) :
    Follows (g.applyConverter n (n.children.map g.resolver)) (g.convertTold n below) := by
  intro route t
  unfold applyConverter convertTold
  cases get? g.table n.kind with
  | none => rfl
  | some c =>
    simp only
    rw [(c n).run_eq_runTold route h t]
    rfl

theorem follows_resolveNode {below : Nat → List Nat → Told}
    (h : ∀ i is, Follows (resolveAt (n.children.map g.resolver) i is) (below i is)) :
    Follows (g.resolveNode n (n.children.map g.resolver)) (g.nodeTold n below) := by
  intro route t
  have hconvert := g.follows_applyConverter h route t
  unfold resolveNode nodeTold
  cases g.sharedName? n with
  | none => exact hconvert
  | some name =>
    simp only [resolveShared]
    split_ifs
    · exact follows_emitReference name route t
    · rw [hconvert]
      rcases g.convertTold n below route t with ⟨e | k, t'⟩
      · rfl
      · exact follows_emitReference name route
          (((t'.on route).report (.cachingDefinition name route)).define name k).record

theorem follows_resolveAt
    (h : ∀ i is c, n.descendant? (i :: is) = some c → Follows (g.resolve c) (g.told c)) (i : Nat)
    (is : List Nat) :
    Follows (resolveAt (n.children.map g.resolver) i is) (g.toldBelow n i is) := by
  rw [resolveAt_eq, toldBelow]
  cases hc : n.descendant? (i :: is) with
  | none => exact fun _ _ => rfl
  | some c => exact h i is c hc

/-- **A conversion does what the told one does**, whatever the converters ask. -/
theorem follows_resolve (n : Node) : Follows (g.resolve n) (g.told n) := by
  induction n using Node.descendant_induction with
  | h n ih =>
    rw [resolve_eq, told_eq]
    exact g.follows_resolveNode (g.follows_resolveAt ih)

/-! ## Moments -/

theorem route_of_mem_convertMoments {below : Nat → List Nat → Path → Progress → List Moment}
    (h : ∀ i is route (s : Progress), s.path = route →
      ∀ m ∈ below i is route s, m.progress.path = m.route)
    {route : Path} {s : Progress} (hs : s.path = route) :
    ∀ m ∈ g.convertMoments n below route s, m.progress.path = m.route := by
  unfold convertMoments
  cases get? g.table n.kind with
  | none => exact List.forall_mem_nil _
  | some c =>
    refine Query.route_of_mem_moments (fun i is segment t ht => ?_) (c n) hs
    have henter : (t.enter segment).path = route.push segment := by
      rw [Progress.path_enter, ht]
    exact h i is _ _ henter

/-- **At every moment the path is the route**, if it is so at the start. -/
theorem route_of_mem_moments (n : Node) :
    ∀ (route : Path) (s : Progress), s.path = route →
      ∀ m ∈ g.moments n route s, m.progress.path = m.route := by
  induction n using Node.descendant_induction with
  | h n ih =>
    intro route s hs
    rw [moments_eq, nodeMoments]
    split_ifs
    · exact List.forall_mem_nil _
    refine g.route_of_mem_convertMoments (fun i is route' t ht => ?_) hs
    rw [momentsBelow]
    cases hc : n.descendant? (i :: is) with
    | none => exact List.forall_mem_nil _
    | some c => exact ih i is c hc route' t ht

/-! ## The path -/

/-- **The path is the route.** A node is resolved, and any query of its converter is answered, as in
the told conversion; so whatever asks for its path gets the segments by which the node and those
around it were entered. An action one segment below has the path with that segment, and behind it
the path is that from before. It is so at every moment, when the next keyword step begins, whatever
the steps before did, and when the node has been resolved, with a result, without one or with an
error. -/
theorem path_is_route (n : Node) (s : Progress) :
    g.resolve n s = Prod.map id (·.on s.path) (g.told n s.path s.record) ∧
      (∀ (α : Type) (q : Query α), q.run (resolveAt (n.children.map g.resolver)) s =
        Prod.map id (·.on s.path) (q.runTold (g.toldBelow n) s.path s.record)) ∧
      (∀ segment act, s.descend segment act =
        Prod.map id (·.leave s.path) (act { s with path := s.path.push segment })) ∧
      (∀ m ∈ g.moments n s.path s, m.progress.path = m.route) ∧
      (∀ (k : Keywords) (steps : List Step),
        ((Recipe.applySteps n k steps).run (resolveAt (n.children.map g.resolver)) s).2.path =
          s.path) ∧
      (g.resolve n s).2.path = s.path ∧
      ∀ segment, (s.descend segment (g.resolve n)).2.path = s.path := by
  have hresolve := g.follows_resolve n s.path s.record
  have hbelow := g.follows_resolveAt (n := n) fun _ _ c _ => g.follows_resolve c
  have hrun (α : Type) (q : Query α) := q.run_eq_runTold s.path hbelow s.record
  have hsteps (k : Keywords) (steps : List Step) := hrun _ (Recipe.applySteps n k steps)
  exact ⟨hresolve, hrun, fun _ _ => rfl, g.route_of_mem_moments n s.path s rfl,
    fun k steps => congrArg (fun r => r.2.path) (hsteps k steps),
    congrArg (fun r => r.2.path) hresolve, fun _ => rfl⟩

/-- A generator that puts up with arrays whose items fail, and notes where they are. -/
def tolerant : Generator :=
  standard.register .array fun n => .resolve 0 [] .items fun _ => Step.recordPath "at" n [] >>=
    fun k => pure (some k)

/-- An object with a list of prices, whose items have no converter, and with an owner. -/
def shelf : Node :=
  (Node.ofKind .object).field "prices" ((Node.ofKind .array).child (.ofKind .decimal))
    |>.field "owner" (.ofKind .string)

/-- The list asks twice, and each time its path is the same, also behind the failure of its items. -/
theorem shelf_paths :
    (tolerant.moments shelf [] {}).map (fun m => (m.node.name, m.route)) =
        [("", []), ("prices", [.property "prices"]), ("prices", [.property "prices"]),
          ("prices", [.property "prices"]), ("", []), ("owner", [.property "owner"]), ("", [])] ∧
      (∀ m ∈ tolerant.moments shelf [] {}, m.progress.path = m.route) ∧
      (tolerant.told shelf [] {}).2.events = [.noConverter .decimal [.property "prices", .items]] ∧
      tolerant.resolve shelf {} = Prod.map id (·.on []) (tolerant.told shelf [] {}) := by
  obtain ⟨hresolve, -, -, hmoments, -⟩ := tolerant.path_is_route shelf {}
  exact ⟨rfl, hmoments, rfl, hresolve⟩

end Generator

end SchemaTree
