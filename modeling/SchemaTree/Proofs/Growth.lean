import SchemaTree.Proofs.Moments

/-!
# How a conversion grows

Whatever converters ask for, a conversion only adds to its definitions and events: it reports a
reference only to a type that has a definition, and what is recorded of a type stays. So a type
without a result has none for good.

* `Progress.Grows`, `Progress.GrowsThrough`: what can come after a state, also with moments between;
* `Query.growsThrough_run`, **`Generator.growsThrough_resolve`**: one query, and a whole conversion;
* `Generator.unlessConverted`, **`Generator.resolver_unlessConverted`**: no converter is at work on an
  object whose type has been converted;
* **`Generator.definitions_are_final`**.
-/

namespace SchemaTree

open OrderedMap

namespace Progress

/-! ## What comes after a state -/

/-- What can come after a state: definitions are added behind the others and under new names, and
events behind the others. A reference is reported only to a type that has a definition. -/
structure Grows (s t : Progress) : Prop where
  definitions : s.definitions <+: t.definitions
  nodup : (keys s.definitions).Nodup → (keys t.definitions).Nodup
  events : ∃ later, t.events = s.events ++ later ∧
    ∀ name path, .emittingReference name path ∈ later → (t.definition? name).isSome = true

variable {s t u : Progress}

theorem definition?_of_isPrefix (h : s.definitions <+: t.definitions) {name : String}
    (hname : (s.definition? name).isSome = true) : (t.definition? name).isSome = true := by
  obtain ⟨k, hk⟩ := Option.isSome_iff_exists.1 hname
  have hget : get? s.definitions name = some (some k) := Option.join_eq_some_iff.1 hk
  rw [definition?, get?_of_isPrefix h hget]
  rfl

theorem Grows.of_eq (hdefs : t.definitions = s.definitions) (hevents : t.events = s.events) :
    s.Grows t where
  definitions := hdefs ▸ List.prefix_refl _
  nodup h := hdefs ▸ h
  events := ⟨[], by rw [hevents, List.append_nil], by simp⟩

theorem Grows.refl (s : Progress) : s.Grows s := .of_eq rfl rfl

theorem Grows.trans (h : s.Grows t) (h' : t.Grows u) : s.Grows u where
  definitions := h.definitions.trans h'.definitions
  nodup hs := h'.nodup (h.nodup hs)
  events := by
    obtain ⟨later, ht, hlater⟩ := h.events
    obtain ⟨later', hu, hlater'⟩ := h'.events
    refine ⟨later ++ later', by rw [hu, ht, List.append_assoc], fun name path hmem => ?_⟩
    rcases List.mem_append.1 hmem with hmem | hmem
    · exact definition?_of_isPrefix h'.definitions (hlater name path hmem)
    · exact hlater' name path hmem

theorem grows_report (s : Progress) {e : Event}
    (h : ∀ name path, e = .emittingReference name path → (s.definition? name).isSome = true) :
    s.Grows (s.report e) where
  definitions := List.prefix_refl _
  nodup hs := hs
  events := by
    refine ⟨[e], rfl, fun name path hmem => ?_⟩
    exact h name path (List.mem_singleton.1 hmem).symm

theorem grows_define (s : Progress) (name : String) (result : Option Keywords) :
    s.Grows (s.define name result) where
  definitions := isPrefix_insertIfNew s.definitions name result
  nodup hs := nodup_keys_insertIfNew hs name result
  events := ⟨[], (List.append_nil s.events).symm, by simp⟩

/-! ## Moments in between -/

/-- The conversion grows from one state through moments to another state. -/
structure GrowsThrough (s : Progress) (ms : List Moment) (t : Progress) : Prop where
  first : ∀ m ∈ ms, s.Grows m.progress
  order : ms.Pairwise fun m m' => m.progress.Grows m'.progress
  last : ∀ m ∈ ms, m.progress.Grows t
  whole : s.Grows t

variable {ms ms' : List Moment}

theorem Grows.through (h : s.Grows t) : s.GrowsThrough [] t :=
  ⟨List.forall_mem_nil _, .nil, List.forall_mem_nil _, h⟩

theorem GrowsThrough.append (h : s.GrowsThrough ms t) (h' : t.GrowsThrough ms' u) :
    s.GrowsThrough (ms ++ ms') u where
  first := List.forall_mem_append.2 ⟨h.first, fun m hm => h.whole.trans (h'.first m hm)⟩
  order := List.pairwise_append.2
    ⟨h.order, h'.order, fun m hm m' hm' => (h.last m hm).trans (h'.first m' hm')⟩
  last := List.forall_mem_append.2 ⟨fun m hm => (h.last m hm).trans h'.whole, h'.last⟩
  whole := h.whole.trans h'.whole

theorem GrowsThrough.cons (n : Node) (route : Path) (h : s.GrowsThrough ms t) :
    s.GrowsThrough (⟨n, route, s⟩ :: ms) t where
  first := List.forall_mem_cons.2 ⟨.refl s, h.first⟩
  order := List.pairwise_cons.2 ⟨h.first, h.order⟩
  last := List.forall_mem_cons.2 ⟨h.whole, h.last⟩
  whole := h.whole

theorem GrowsThrough.leave {segment : Segment} (h : (s.enter segment).GrowsThrough ms t)
    (path : Path) : s.GrowsThrough ms (t.leave path) := by
  have henter : s.Grows (s.enter segment) := .of_eq rfl rfl
  have hleave : t.Grows (t.leave path) := .of_eq rfl rfl
  have hall := (henter.through.append h).append hleave.through
  rwa [List.nil_append, List.append_nil] at hall

end Progress

open Progress

/-! ## Queries -/

/-- **A query lets the conversion grow** if resolving the descendants does. -/
theorem Query.growsThrough_run {α : Type} {resolveAt : Nat → List Nat → Action}
    {below : Nat → List Nat → Segment → Progress → List Moment} {n : Node} {route : Path}
    (h : ∀ i is segment (s : Progress),
      s.GrowsThrough (below i is segment s) (s.descend segment (resolveAt i is)).2)
    (q : Query α) (s : Progress) :
    s.GrowsThrough (q.moments resolveAt below n route s) (q.run resolveAt s).2 := by
  induction q generalizing s with
  | done | fail => exact (Grows.refl s).through.cons n route
  | path next ih => exact (ih _ s).cons n route
  | isDefined name next ih => exact (ih _ s).cons n route
  | definition name next ih => exact (ih _ s).cons n route
  | resolve i is segment next ih => exact ((h i is segment s).append (ih _ _)).cons n route
  | reportSkipped property next ih =>
    have hreport := s.grows_report (e := .skippedProperty property s.path) (by simp)
    exact (hreport.through.append (ih _)).cons n route

namespace Generator

variable (g : Generator)

/-! ## Nodes -/

theorem grows_emitReference (name : String) (s : Progress) :
    s.Grows (emitReference name s).2 := by
  unfold emitReference
  cases hname : s.definition? name with
  | none => exact .refl s
  | some k =>
    refine s.grows_report fun name' path he => ?_
    cases he
    rw [hname]
    rfl

theorem growsThrough_applyConverter {n : Node}
    {below : Nat → List Nat → Path → Progress → List Moment}
    (h : ∀ i is route (s : Progress),
      s.GrowsThrough (below i is route s) (resolveAt (n.children.map g.resolver) i is s).2)
    (route : Path) (s : Progress) :
    s.GrowsThrough (g.convertMoments n below route s)
      (g.applyConverter n (n.children.map g.resolver) s).2 := by
  unfold convertMoments applyConverter
  cases get? g.table n.kind with
  | none => exact (s.grows_report (by simp)).through
  | some c =>
    refine Query.growsThrough_run (fun i is segment t => ?_) (c n) s
    exact (h i is (route.push segment) (t.enter segment)).leave t.path

/-- **A conversion grows through its moments**, whatever the converters ask for. -/
theorem growsThrough_resolve (n : Node) :
    ∀ (route : Path) (s : Progress), s.GrowsThrough (g.moments n route s) (g.resolve n s).2 := by
  induction n using Node.descendant_induction with
  | h n ih =>
    intro route s
    have hbelow : ∀ i is route (s : Progress), s.GrowsThrough (g.momentsBelow n i is route s)
        (resolveAt (n.children.map g.resolver) i is s).2 := by
      intro i is route s
      rw [momentsBelow, resolveAt_eq]
      cases hc : n.descendant? (i :: is) with
      | none => exact (Grows.refl s).through
      | some c => exact ih i is c hc route s
    have hconvert := g.growsThrough_applyConverter hbelow route s
    rw [moments_eq, nodeMoments, resolve_eq, resolveNode]
    cases g.sharedName? n with
    | none => exact hconvert
    | some name =>
      simp only [Option.any_some]
      unfold resolveShared
      split_ifs with hdefined
      · exact (grows_emitReference name s).through
      rcases hr : g.applyConverter n (n.children.map g.resolver) s with ⟨e | k, t⟩
      · rw [hr] at hconvert
        exact hconvert
      · rw [hr] at hconvert
        have hreport := t.grows_report (e := .cachingDefinition name t.path) (by simp)
        have hdefine := hreport.trans (grows_define _ name k)
        have hall := hconvert.append (hdefine.trans (grows_emitReference name _)).through
        rwa [List.append_nil] at hall

/-! ## Objects whose type has been converted -/

/-- The generator whose converters do something else with an object whose type has been converted. -/
def unlessConverted (other : Converter) : Generator :=
  { g with
    table := g.table.map (Prod.map id fun c n =>
      match g.sharedName? n with
      | none => c n
      | some name => .isDefined name fun b => if b then other n else c n) }

/-- A converter that would do something else with such objects does the same with all others. -/
theorem applyConverter_unlessConverted (other : Converter) {n : Node} {s : Progress}
    (hs : (g.sharedName? n).any s.isDefined = false) (below : List Resolver) :
    (g.unlessConverted other).applyConverter n below s = g.applyConverter n below s := by
  rw [applyConverter, applyConverter, unlessConverted, get?_map]
  cases get? g.table n.kind with
  | none => rfl
  | some c =>
    simp only [Option.map_some]
    cases hname : g.sharedName? n with
    | none => rfl
    | some name =>
      rw [hname, Option.any_some] at hs
      simp only [Query.run, hs, Bool.false_eq_true, if_false]

/-- **No converter is at work on an object whose type has been converted**: whatever it would do with
such objects, all nodes are resolved in the same way. -/
theorem resolver_unlessConverted (other : Converter) (n : Node) :
    (g.unlessConverted other).resolver n = g.resolver n := by
  induction n using Node.induction with
  | h n ih =>
    obtain ⟨a, children⟩ := n
    have hbelow : (g.unlessConverted other).resolvers children = g.resolvers children := by
      rw [resolvers_eq_map, resolvers_eq_map]
      exact List.map_congr_left ih
    have hnode : (g.unlessConverted other).resolveNode (.mk a children) (g.resolvers children) =
        g.resolveNode (.mk a children) (g.resolvers children) := by
      have hconvert {s : Progress} (hs : (g.sharedName? (.mk a children)).any s.isDefined = false) :
          (g.unlessConverted other).applyConverter (.mk a children) (g.resolvers children) s =
            g.applyConverter (.mk a children) (g.resolvers children) s :=
        g.applyConverter_unlessConverted other hs _
      funext s
      rw [resolveNode, resolveNode]
      change (match g.sharedName? (.mk a children) with
        | none => (g.unlessConverted other).applyConverter _ _
        | some name => (g.unlessConverted other).resolveShared name _ _) s = _
      cases hname : g.sharedName? (.mk a children) with
      | none => exact hconvert (by rw [hname]; rfl)
      | some name =>
        simp only [resolveShared]
        split_ifs with hdefined
        · rfl
        · rw [hconvert (by simpa [hname] using hdefined)]
    rw [resolver, resolver, hbelow]
    exact congrArg (Resolver.mk · _) hnode

/-! ## Types without a result -/

theorem resolve_of_no_result {n : Node} {name : String} {s : Progress}
    (hn : g.sharedName? n = some name) (hs : get? s.definitions name = some none) :
    g.resolve n s = (.ok none, s) := by
  have hdefined : s.isDefined name = true := by
    rw [Progress.isDefined, contains, hs]
    rfl
  have hnone : s.definition? name = none := by
    rw [Progress.definition?, hs]
    rfl
  rw [resolve_eq, resolveNode, hn]
  simp only [resolveShared, if_pos hdefined]
  rw [emitReference, hnone]

theorem definition?_of_emitReference {name : String} {s t : Progress} {k : Keywords}
    (h : emitReference name s = (.ok (some k), t)) : (t.definition? name).isSome = true := by
  unfold emitReference at h
  cases hname : s.definition? name with
  | none =>
    rw [hname] at h
    cases h
  | some k' =>
    rw [hname] at h
    cases h
    exact Option.isSome_iff_exists.2 ⟨k', hname⟩

/-- An object whose schema is shared has one only if its type has a definition then. What its own
converter gave is of no account if the type has been recorded in the meantime. -/
theorem definition?_of_resolve {n : Node} {name : String} {s t : Progress} {k : Keywords}
    (hn : g.sharedName? n = some name) (h : g.resolve n s = (.ok (some k), t)) :
    (t.definition? name).isSome = true := by
  rw [resolve_eq, resolveNode, hn] at h
  simp only at h
  unfold resolveShared at h
  split_ifs at h
  · exact definition?_of_emitReference h
  · rcases hr : g.applyConverter n (n.children.map g.resolver) s with ⟨e | k', u⟩
    · rw [hr] at h
      cases h
    · rw [hr] at h
      exact definition?_of_emitReference h

theorem get?_sharedSchemas {s : Progress} (hs : (keys s.definitions).Nodup) (name : String) :
    get? s.sharedSchemas name = (s.definition? name).map .object := by
  rw [Progress.sharedSchemas, Progress.definition?]
  generalize s.definitions = D at hs
  induction D with
  | nil => rfl
  | cons e D ih =>
    obtain ⟨name', o⟩ := e
    obtain ⟨hnew, hD⟩ : name' ∉ keys D ∧ (keys D).Nodup := List.nodup_cons.1 hs
    by_cases hname : name' = name
    · cases o with
      | none =>
        have hmissing : get? D name = none := (get?_eq_none_iff D name).2 (hname ▸ hnew)
        simpa [get?, hname, hmissing] using ih hD
      | some k => simp [get?, hname]
    · cases o <;> simp [get?, hname, ih hD]

theorem not_mem_sharedSchemas {name : String} {s : Progress} (hs : (keys s.definitions).Nodup)
    (hname : get? s.definitions name = some none) : name ∉ keys s.sharedSchemas := by
  rw [← get?_eq_none_iff, get?_sharedSchemas hs, Progress.definition?, hname]
  rfl

/-- **Definitions are final.** While a node is resolved, whatever the converters ask for, the
definitions of every moment begin with those of the moments before and have no name twice, and no
converter is at work on an object whose type has been converted. Once a type is recorded without a
result, all its nodes are without one, also those that were at work then; no definition has its name,
and no reference to it is reported, neither before nor afterwards. -/
theorem definitions_are_final {n : Node} {s t : Progress} {r : Outcome}
    (h : g.resolve n s = (r, t)) (hs : (keys s.definitions).Nodup) :
    s.GrowsThrough (g.moments n s.path s) t ∧ (keys t.definitions).Nodup ∧
      (∀ other, (g.unlessConverted other).resolve n s = (r, t)) ∧
      ∀ (D : Definitions) (name : String), D <+: t.definitions → get? D name = some none →
        (∀ m u, g.sharedName? m = some name → D <+: u.definitions →
          g.resolve m u = (.ok none, u)) ∧
        (g.sharedName? n = some name → ∀ k, r ≠ .ok (some k)) ∧
        name ∉ keys t.sharedSchemas ∧
        ∃ later, t.events = s.events ++ later ∧
          ∀ path, .emittingReference name path ∉ later := by
  have hgrows := g.growsThrough_resolve n s.path s
  rw [h] at hgrows
  have ht := hgrows.whole.nodup hs
  refine ⟨hgrows, ht, fun other => ?_, fun D name hD hname => ?_⟩
  · rw [← h, resolve, resolver_unlessConverted, ← resolve]
  have hnone : t.definition? name = none := by
    rw [Progress.definition?, get?_of_isPrefix hD hname]
    rfl
  refine ⟨fun m u hm hu => g.resolve_of_no_result hm (get?_of_isPrefix hu hname), ?_, ?_, ?_⟩
  · rintro hn k rfl
    have hsome := g.definition?_of_resolve hn h
    rw [hnone] at hsome
    cases hsome
  · exact not_mem_sharedSchemas ht (get?_of_isPrefix hD hname)
  · obtain ⟨later, hevents, hlater⟩ := hgrows.whole.events
    refine ⟨later, hevents, fun path hmem => ?_⟩
    have hsome := hlater name path hmem
    rw [hnone] at hsome
    cases hsome

/-- A generator that gives for an object what its children give, and nothing without children. -/
def collecting : Generator :=
  (ofProfile .swagger2).register .object fun n =>
    if n.children.isEmpty then pure none else Converter.childSchemas "parts" n

/-- An object of type `T` with an empty object of that type, and another empty one. -/
def emptied : Node :=
  let empty := (Node.ofKind .object).withTypeName "T"
  (Node.ofKind .object).field "outer" (empty.field "inner" empty) |>.field "other" empty

/-- The empty object has the name, so what the outer one gives is thrown away. -/
theorem emptied_has_no_result :
    ∃ t, collecting.resolve emptied { definitions := [("U", some [])] } =
        (.ok (some [("parts", .array [.null, .null])]), t) ∧
      t.definitions = [("U", some []), ("T", none)] ∧ "T" ∉ keys t.sharedSchemas ∧
      ∀ path, Event.emittingReference "T" path ∉ t.events := by
  obtain ⟨t, ht⟩ : ∃ t, collecting.resolve emptied { definitions := [("U", some [])] } =
    (.ok (some [("parts", .array [.null, .null])]), t) := ⟨_, rfl⟩
  have hdefinitions : t.definitions = [("U", some []), ("T", none)] := by
    cases ht
    rfl
  obtain ⟨-, -, -, hfinal⟩ := collecting.definitions_are_final ht (by decide)
  obtain ⟨-, -, hname, later, hlater, hnot⟩ :=
    hfinal t.definitions "T" (List.prefix_refl _) (by rw [hdefinitions]; rfl)
  refine ⟨t, ht, hdefinitions, hname, ?_⟩
  rw [hlater]
  exact hnot

end Generator

end SchemaTree
