import SchemaTree.Proofs.Moments
import SchemaTree.Proofs.Sites
import SchemaTree.Proofs.Visits

/-!
# The first conversion to finish is the definition

Objects of one type name may look different, and may be nested in each other. The definition of the
name is what the converter makes of the one that it is done with first; an outer object that was
begun before comes too late.

* `Query.mem_moments_bind_of_run`, `Generator.partMoments`, `partMoments_subset`: the moments of a
  node hold those of its parts;
* `Profile.Starts`, **`Profile.visitsStart`**: every visit that goes below a node is a conversion of
  the node, which begins at a moment;
* `Profile.Referred`: named objects are references;
* **`Profile.first_finished_defines`**.
-/

namespace SchemaTree

open OrderedMap

/-! ## Moments of a sequence -/

namespace Query

variable {α β : Type} {resolveAt : Nat → List Nat → Action}
  {below : Nat → List Nat → Segment → Progress → List Moment} {n : Node} {route : Path}

theorem self_mem_moments (q : Query α) (s : Progress) :
    ⟨n, route, s⟩ ∈ q.moments resolveAt below n route s := by
  cases q <;> exact List.mem_cons_self

theorem mem_moments_bind {m : Moment} (q : Query α) (f : α → Query β) (s : Progress)
    (h : m ∈ q.moments resolveAt below n route s) :
    m ∈ (q >>= f).moments resolveAt below n route s := by
  induction q generalizing s with
  | done a => exact List.mem_singleton.1 h ▸ self_mem_moments (f a) s
  | fail e => exact h
  | path next ih | isDefined name next ih | definition name next ih =>
    exact (List.mem_cons.1 h).elim (fun h => h ▸ List.mem_cons_self) fun h =>
      List.mem_cons_of_mem _ (ih _ _ h)
  | reportSkipped property next ih =>
    exact (List.mem_cons.1 h).elim (fun h => h ▸ List.mem_cons_self) fun h =>
      List.mem_cons_of_mem _ (ih _ h)
  | resolve i is segment next ih =>
    rcases List.mem_cons.1 h with rfl | h
    · exact List.mem_cons_self
    · refine List.mem_cons_of_mem _ ((List.mem_append.1 h).elim (List.mem_append_left _) fun h => ?_)
      exact List.mem_append_right _ (ih _ _ h)

theorem mem_moments_bind_of_run {m : Moment} {q : Query α} {f : α → Query β} {s t : Progress} {a : α}
    (hrun : q.run resolveAt s = (.ok a, t)) (h : m ∈ (f a).moments resolveAt below n route t) :
    m ∈ (q >>= f).moments resolveAt below n route s := by
  induction q generalizing s with
  | done b =>
    obtain ⟨hb, rfl⟩ := Prod.mk.inj hrun
    cases hb
    exact h
  | fail e => cases hrun
  | path next ih | isDefined name next ih | definition name next ih =>
    exact List.mem_cons_of_mem _ (ih _ hrun)
  | reportSkipped property next ih => exact List.mem_cons_of_mem _ (ih hrun)
  | resolve i is segment next ih =>
    exact List.mem_cons_of_mem _ (List.mem_append_right _ (ih _ hrun))

end Query

/-! ## Moments of parts -/

namespace Generator

variable (g : Generator)

/-- The moments of resolving parts in order. -/
def partMoments : List (Segment × Node) → Path → Progress → List Moment
  | [], _, _ => []
  | (segment, c) :: parts, path, s =>
    g.moments c (path.push segment) (s.enter segment) ++
      match s.descend segment (g.resolve c) with
      | (.error _, _) => []
      | (.ok k, t) => partMoments parts path (t.noteResult segment k)

/-- The moments of a query of the converter of a node at `path`. -/
def queryMoments {α : Type} (n : Node) (path : Path) (q : Query α) (s : Progress) : List Moment :=
  q.moments (resolveAt (n.children.map g.resolver))
    (fun i is segment t => g.momentsBelow n i is (path.push segment) (t.enter segment))
    n path s

variable {g} {n c : Node} {path : Path} {m : Moment}

theorem mem_queryMoments_resolveChild {i : Nat} (hc : n.children[i]? = some c) {segment : Segment}
    {s : Progress} (h : m ∈ g.moments c (path.push segment) (s.enter segment)) :
    m ∈ g.queryMoments n path (Query.resolveChild i segment) s := by
  have hdescendant : n.descendant? [i] = some c := by
    rw [Node.descendant?, hc]
    rfl
  refine List.mem_cons_of_mem _ (List.mem_append_left _ ?_)
  change m ∈ g.momentsBelow n i [] (path.push segment) (s.enter segment)
  rw [momentsBelow, hdescendant]
  exact h

theorem mem_queryMoments_gatherProperties (earlier cs : List Node) (hn : n.children = earlier ++ cs)
    (acc : OrderedMap String Json) (s : Progress)
    (h : m ∈ g.partMoments (cs.map fun c => (.property c.name, c)) path s) :
    m ∈ g.queryMoments n path (Step.gatherProperties earlier.length acc cs) s := by
  induction cs generalizing earlier acc s with
  | nil => cases h
  | cons c cs ih =>
    have hc : n.children[earlier.length]? = some c := by simp [hn]
    have hlater : n.children = (earlier ++ [c]) ++ cs := by simp [hn]
    have hlength : (earlier ++ [c]).length = earlier.length + 1 := by simp
    have hrest := ih (earlier ++ [c]) hlater
    rw [hlength] at hrest
    rw [List.map_cons, partMoments] at h
    rw [Step.gatherProperties]
    rcases List.mem_append.1 h with h | h
    · exact Query.mem_moments_bind _ _ s (mem_queryMoments_resolveChild hc h)
    · rcases hr : s.descend (.property c.name) (g.resolve c) with ⟨e | k, t⟩
      · rw [hr] at h
        cases h
      · rw [hr] at h
        have hrun : (Query.resolveChild earlier.length (.property c.name)).run
            (resolveAt (n.children.map g.resolver)) s = (.ok k, t) := by
          rw [run_resolveChild, resolveAt_child g hc, hr]
        refine Query.mem_moments_bind_of_run hrun ?_
        cases k with
        | none => exact Query.mem_moments_bind_of_run rfl (hrest acc _ h)
        | some k => exact hrest _ _ h

end Generator

namespace Profile

variable {p : Profile} {extracts : Bool} {dialect : Option String} {n : Node} {path : Path}

theorem partMoments_subset (hn : p.converts n.kind = true) (s : Progress) :
    ∀ m ∈ (p.generator extracts dialect).partMoments n.parts path s,
      m ∈ (p.generator extracts dialect).convertMoments n
        ((p.generator extracts dialect).momentsBelow n) path s := by
  intro m h
  obtain ⟨c, hc⟩ := Option.isSome_iff_exists.1 hn
  have hsingle (step : Step) (k : Keywords) : Recipe.applySteps n k [step] = step n k := by
    rw [Recipe.applySteps]
    exact bind_pure (step n k)
  rw [Generator.convertMoments, get?_table_generator extracts dialect hc]
  simp only
  rw [toConverter_eq hc]
  refine Query.mem_moments_bind _ _ s ?_
  change m ∈ (p.generator extracts dialect).queryMoments n path _ s
  rcases n.object_or_array_or_leaf with hkind | hkind | hkind
  · rw [hkind, Kind.partSteps, hsingle, Step.properties]
    rw [Node.parts_of_object hkind] at h
    exact Query.mem_moments_bind _ _ s
      (Generator.mem_queryMoments_gatherProperties [] n.children rfl [] s h)
  · rw [hkind, Kind.partSteps, hsingle, Step.items, Node.item?]
    rw [Node.parts_of_array hkind] at h
    cases hchild : n.children.head? with
    | none =>
      rw [hchild] at h
      cases h
    | some c =>
      rw [hchild] at h
      rcases List.mem_append.1 h with h | h
      · have hfirst : n.children[0]? = some c := by rw [← List.head?_eq_getElem?, hchild]
        exact Query.mem_moments_bind _ _ s (Generator.mem_queryMoments_resolveChild hfirst h)
      · split at h <;> cases h
  · rw [Node.parts_of_leaf hkind] at h
    cases h

/-! ## Where conversions begin -/

/-- A conversion of the visited node begins at one of the moments, and it gives the body. -/
def Starts (p : Profile) (dialect : Option String) (ms : List Moment) (v : Visit) : Prop :=
  ∃ s t, ⟨v.node, v.path, s⟩ ∈ ms ∧
    (p.generator true dialect).convert v.node s = (.ok (some (p.body v.node)), t)

theorem Starts.mono {ms ms' : List Moment} {v : Visit} (h : p.Starts dialect ms v)
    (hms : ∀ m ∈ ms, m ∈ ms') : p.Starts dialect ms' v := by
  obtain ⟨s, t, hmem, hconvert⟩ := h
  exact ⟨s, t, hms _ hmem, hconvert⟩

theorem convert_of_resolve {g : Generator} {s t : Progress} {k : Option Keywords}
    (h : g.resolve n s = (.ok k, t)) (hnew : (g.sharedName? n).any s.isDefined = false) :
    ∃ k' t', g.convert n s = (.ok k', t') := by
  rw [Generator.resolve_eq, Generator.resolveNode] at h
  cases hname : g.sharedName? n with
  | none =>
    rw [hname] at h
    exact ⟨k, t, h⟩
  | some name =>
    have hdefined : s.isDefined name = false := by simpa [hname] using hnew
    rw [hname] at h
    simp only [Generator.resolveShared, hdefined] at h
    rw [Generator.convert]
    rcases hr : g.applyConverter n (n.children.map g.resolver) s with ⟨e | k', t'⟩
    · rw [hr] at h
      cases h
    · exact ⟨k', t', rfl⟩

theorem converts_of_convert {s t : Progress} {k : Option Keywords}
    (h : (p.generator extracts dialect).convert n s = (.ok k, t)) : p.converts n.kind = true := by
  by_contra hn
  rw [convert_of_not_converts extracts dialect (Bool.eq_false_iff.2 hn)] at h
  cases h

theorem convert_eq_body {F : Node.Finished} {s t : Progress} {k : Option Keywords}
    (hs : s.definitions = p.definitionsOf F)
    (h : (p.generator true dialect).convert n s = (.ok k, t)) : k = some (p.body n) := by
  have hwrites := (inductive_writes p dialect).convert n
    (fun e _ s => p.resolve_writes dialect e.2 s) s F hs
  rw [h] at hwrites
  exact (hwrites k rfl).1

/-- Whenever the node has a result, every visit from it on that goes below a node starts at a moment
of resolving it. -/
def VisitsStart (p : Profile) (dialect : Option String) (n : Node) : Prop :=
  ∀ F known path s k t, Node.Knows known F → s.definitions = p.definitionsOf F →
    (p.generator true dialect).resolve n s = (.ok k, t) →
    ∀ v ∈ Node.visits known path n, v.converted = true →
      p.Starts dialect ((p.generator true dialect).moments n path s) v

theorem starts_of_mem_visitsOfParts {parts : List (Segment × Node)}
    (h : ∀ e ∈ parts, p.VisitsStart dialect e.2) (path : Path) : ∀ F known s ks t,
      Node.Knows known F → s.definitions = p.definitionsOf F →
      (p.generator true dialect).resolveParts parts s = (.ok ks, t) →
      ∀ v ∈ Node.visitsOfParts known path parts, v.converted = true →
        p.Starts dialect ((p.generator true dialect).partMoments parts path s) v := by
  induction parts with
  | nil => exact fun F known s ks t _ _ _ v hv => by cases hv
  | cons e parts ih =>
    intro F known s ks t hknown hs hresolve v hv hconverted
    obtain ⟨segment, c⟩ := e
    obtain ⟨hc, hparts⟩ := List.forall_mem_cons.1 h
    rw [Generator.partMoments]
    rcases hr : (p.generator true dialect).resolve c (s.enter segment) with ⟨e | k, u⟩
    · rw [Generator.resolveParts_of_error (Progress.descend_of_enter hr)] at hresolve
      cases hresolve
    · have hd := Progress.descend_of_enter hr
      rw [Generator.resolveParts_of_ok hd] at hresolve
      rw [hd]
      rcases List.mem_append.1 hv with hv | hv
      · have hstarts := hc F known (path.push segment) (s.enter segment) k u hknown hs hr v hv
          hconverted
        exact hstarts.mono fun m => List.mem_append_left _
      · have hwrites := p.resolve_writes dialect c (s.enter segment) F hs
        rw [hr] at hwrites
        have hu : ((u.leave s.path).noteResult segment k).definitions =
            p.definitionsOf (Node.finish F c) := by
          rw [Progress.definitions_noteResult]
          exact (hwrites k rfl).2
        rcases hrest : (p.generator true dialect).resolveParts parts
          ((u.leave s.path).noteResult segment k) with ⟨e | ks', w⟩
        · rw [hrest] at hresolve
          cases hresolve
        · have hstarts := ih hparts _ _ _ ks' w (Node.knows_finish hknown _ c) hu hrest v hv
            hconverted
          exact hstarts.mono fun m => List.mem_append_right _

theorem starts_of_convert {F : Node.Finished} {known : List String} {s t : Progress}
    {k : Option Keywords} (hparts : ∀ e ∈ n.parts, p.VisitsStart dialect e.2)
    (hknown : Node.Knows known F) (hs : s.definitions = p.definitionsOf F)
    (h : (p.generator true dialect).convert n s = (.ok k, t)) {v : Visit}
    (hv : v ∈ Node.visitsOfParts known path n.parts ++ [⟨path, n, true⟩])
    (hconverted : v.converted = true) :
    p.Starts dialect ((p.generator true dialect).convertMoments n
      ((p.generator true dialect).momentsBelow n) path s) v := by
  have hn := converts_of_convert h
  rcases List.mem_append.1 hv with hv | hv
  · have hresolve := h
    rw [convert_eq true dialect hn] at hresolve
    rcases hr : (p.generator true dialect).resolveParts n.parts s with ⟨e | ks, u⟩
    · rw [hr] at hresolve
      cases hresolve
    · have hstarts := starts_of_mem_visitsOfParts hparts path F known s ks u hknown hs hr v hv
        hconverted
      exact hstarts.mono (partMoments_subset hn s)
  · obtain rfl := List.mem_singleton.1 hv
    refine ⟨s, t, ?_, convert_eq_body hs h ▸ h⟩
    obtain ⟨c, hc⟩ := Option.isSome_iff_exists.1 hn
    rw [Generator.convertMoments, get?_table_generator true dialect hc]
    exact Query.self_mem_moments _ s

/-- **Every visit that goes below a node is a conversion of the node.** The induction is over the
parts of the node, whose moments are among its own. -/
theorem visitsStart (p : Profile) (dialect : Option String) (n : Node) :
    p.VisitsStart dialect n := by
  induction n using Node.parts_induction with
  | h n ih =>
    intro F known path s k t hknown hs hresolve v hv hconverted
    have hbelow (hnew : ((p.generator true dialect).sharedName? n).any s.isDefined = false)
        (hw : v ∈ Node.visitsOfParts known path n.parts ++ [⟨path, n, true⟩]) :
        p.Starts dialect ((p.generator true dialect).moments n path s) v := by
      obtain ⟨k', t', hconvert⟩ := convert_of_resolve hresolve hnew
      rw [Generator.moments_eq, Generator.nodeMoments, hnew]
      exact starts_of_convert ih hknown hs hconvert hw hconverted
    cases hname : n.objectName? with
    | none =>
      rw [Node.visits_of_none hname] at hv
      refine hbelow ?_ hv
      rw [sharedName?_generator, hname]
      rfl
    | some name =>
      by_cases hmem : name ∈ known
      · rw [Node.visits_of_known hname hmem] at hv
        obtain rfl := List.mem_singleton.1 hv
        cases hconverted
      · rw [Node.visits_of_new hname hmem] at hv
        refine hbelow ?_ hv
        rw [sharedName?_generator, hname, Option.any_some, Bool.eq_false_iff]
        exact mt (fun hdefined => (hknown name).2 ((mem_keys_iff_isDefined hs).2 hdefined)) hmem

/-! ## Documents -/

variable {root : Node} {document : Json}

/-- A named object is written as the reference to the definition of its type. -/
def Referred (n : Node) (k : Keywords) : Prop :=
  ∀ name, n.objectName? = some name → k = Keywords.reference name

theorem get?_definitions_generate (h : (p.generator true dialect).generate root = .ok document)
    (name : String) :
    get? document.definitions name =
      (Node.firstVisit? (root.visits [] []) name).map fun v => .object (p.body v.node) := by
  have hfirst : Node.firstNamed? ((root.visits [] []).map Visit.node) name =
      (Node.firstVisit? (root.visits [] []) name).map Visit.node := by
    rw [Node.firstNamed?, List.find?_map]
    rfl
  have hfinish := root.finish_eq_visits [] [] [] fun _ => Iff.rfl
  rw [definitions_generate h, schemasOf, get?_map, hfinish, Node.finishVisits,
    Node.get?_foldl_keepFirst, hfirst, Option.map_map]
  rfl

theorem keys_definitions_generate (h : (p.generator true dialect).generate root = .ok document) :
    keys document.definitions = ((root.visits [] []).filterMap Visit.name?).eraseDups := by
  have hfinish := root.finish_eq_visits [] [] [] fun _ => Iff.rfl
  rw [definitions_generate h, schemasOf, keys_map, hfinish, Node.finishVisits,
    Node.keys_foldl_keepFirst, List.filterMap_map]
  rfl

/-- **The first conversion of a type to finish is its definition.** The visits of a tree are what the
conversion reports. Of each name that is visited, the definition is what the converter gives for the
first of the visits; it is in no way changed by the others. In the document and in the definitions
all named objects are written as references. -/
theorem first_finished_defines (h : (p.generator true dialect).generate root = .ok document) :
    (p.generator true dialect).events root = (root.visits [] []).flatMap Visit.report ∧
      keys document.definitions = ((root.visits [] []).filterMap Visit.name?).eraseDups ∧
      (∀ name v, Node.firstVisit? (root.visits [] []) name = some v → v.converted = true ∧
        ∃ s t k, ⟨v.node, v.path, s⟩ ∈ (p.generator true dialect).moments root [] {} ∧
          (p.generator true dialect).convert v.node s = (.ok (some k), t) ∧
          get? document.definitions name = some (.object k) ∧
          SitesBelow Referred v.node (.object k)) ∧
      (∃ k, Referred root k ∧
        document = .object (k ++ definitionsEntry document.definitions ++ dialectEntry dialect)) ∧
      SitesBelow Referred root document := by
  have hknown : Node.Knows [] [] := fun _ => Iff.rfl
  have hsite (n : Node) : ∀ k, k = p.site n → Referred n k :=
    fun k hk name hname => hk.trans (site_of_some hname)
  have hsites := (sites_generate h).imp (fun n _ => hsite n) fun n _ name _ k (_ : k = p.body n) =>
    trivial
  refine ⟨(events_generate h).trans (root.log_eq_visits [] [] [] hknown),
    keys_definitions_generate h, fun name v hv => ?_, hsites.whole, hsites.below⟩
  have hconverted := root.converted_of_firstVisit? [] [] List.not_mem_nil hv
  obtain ⟨k, t, hrun, -⟩ := generate_ordered h
  obtain ⟨s, t', hmem, hconvert⟩ := p.visitsStart dialect root [] [] [] {} (some k) t hknown rfl hrun
    v (List.mem_of_find?_eq_some hv) hconverted
  refine ⟨hconverted, s, t', p.body v.node, hmem, hconvert, ?_, ?_⟩
  · rw [get?_definitions_generate h, hv, Option.map_some]
  · exact ((partsBelow_body p v.node).sitesBelow (partsBelow_site p)).imp v.node.self_mem_postOrder
      fun m _ => hsite m

/-- An object of type `Box` with one property. -/
def box (name : String) (c : Node) : Node :=
  (Node.ofKind .object).withTypeName "Box" |>.field name c

/-- A box in another one, and a box that looks different. -/
def boxes : Node :=
  (Node.ofKind .object).field "outer" (box "inner" (box "label" (.ofKind .string)))
    |>.field "other" (box "inner" (box "size" (.ofKind .integer)))

/-- The inner box is the definition: the outer one was begun before it and ends behind it, and below
the other one nothing is visited. -/
theorem boxes_defined :
    (boxes.visits [] []).filterMap (fun v => v.name?.map fun _ => (v.path, v.converted)) =
        [([.property "outer", .property "inner"], true), ([.property "outer"], true),
          ([.property "other"], false)] ∧
      ∃ document s t k, (swagger2.generator true none).generate boxes = .ok document ∧
        ⟨(box "label" (.ofKind .string)).named "inner",
          [.property "outer", .property "inner"], s⟩ ∈
            (swagger2.generator true none).moments boxes [] {} ∧
        (swagger2.generator true none).convert ((box "label" (.ofKind .string)).named "inner") s =
          (.ok (some k), t) ∧
        get? document.definitions "Box" = some (.object k) := by
  obtain ⟨document, h⟩ : ∃ document,
      (swagger2.generator true none).generate boxes = .ok document := ⟨_, rfl⟩
  obtain ⟨-, -, hfirst, -⟩ := first_finished_defines h
  obtain ⟨-, s, t, k, hmem, hconvert, hget, -⟩ := hfirst "Box" _ rfl
  exact ⟨rfl, document, s, t, k, h, hmem, hconvert, hget⟩

end Profile

end SchemaTree
