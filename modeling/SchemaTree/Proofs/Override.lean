import SchemaTree.Proofs.Resolution

/-!
# Overrides

A node is converted by the converter of its own kind, and converters only ask for what lies below
their node. So a tree is resolved in one way by all generators that have the same converters for the
kinds in it, however they came by them.

* `Node.kinds`: the kinds that occur in a tree;
* `Generator.AgreesOn`: generators with the same converters for the kinds of a tree;
* `Generator.foldl_registerAll`, `get?_registerAll`: the converter of a kind is the last replacement
  for it;
* **`Generator.resolver_congr`**: all nodes are resolved in the same way;
* **`Generator.overrides_act_on_their_kinds`**.
-/

namespace SchemaTree

open OrderedMap

/-- The kinds that occur in a tree. -/
def Node.kinds (n : Node) : List Kind := n.subtrees.map Node.kind

theorem Node.kind_mem_kinds (n : Node) : n.kind ∈ n.kinds :=
  List.mem_map_of_mem n.self_mem_subtrees

theorem Node.mem_kinds_of_mem_children {n c : Node} {κ : Kind} (hc : c ∈ n.children)
    (hκ : κ ∈ c.kinds) : κ ∈ n.kinds := by
  obtain ⟨m, hm, rfl⟩ := List.mem_map.1 hκ
  exact List.mem_map_of_mem (mem_subtrees_of_mem_children hc hm)

namespace Generator

/-! ## Replacements -/

/-- The generators have the same settings, and the same converters for the kinds of a tree or the
same lack of one. -/
structure AgreesOn (g g' : Generator) (root : Node) : Prop where
  extracts : g.extractsDefinitions = g'.extractsDefinitions
  dialect : g.dialect = g'.dialect
  table : ∀ κ ∈ root.kinds, get? g.table κ = get? g'.table κ

theorem register_eq_registerAll (g : Generator) (κ : Kind) (c : Converter) :
    g.register κ c = g.registerAll [(κ, c)] := rfl

theorem foldl_registerAll (g : Generator) (css : List (List (Kind × Converter))) :
    css.foldl registerAll g = g.registerAll css.flatten := by
  induction css generalizing g with
  | nil => rfl
  | cons cs css ih =>
    rw [List.foldl_cons, ih, List.flatten_cons, registerAll, registerAll, registerAll, extend,
      extend, extend, List.foldl_append]

theorem get?_registerAll (g : Generator) (cs : List (Kind × Converter)) (κ : Kind) :
    get? (g.registerAll cs).table κ = (get? cs.reverse κ).or (get? g.table κ) :=
  get?_extend g.table cs κ

/-! ## Trees -/

variable {g g' : Generator}

/-- **All nodes are resolved in the same way** by generators that extract alike and have the same
converters for the kinds of a tree. -/
theorem resolver_congr (hextracts : g.extractsDefinitions = g'.extractsDefinitions) {n : Node}
    (htable : ∀ κ ∈ n.kinds, get? g.table κ = get? g'.table κ) : g.resolver n = g'.resolver n := by
  induction n using Node.induction with
  | h n ih =>
    obtain ⟨a, children⟩ := n
    have hbelow : g.resolvers children = g'.resolvers children := by
      rw [resolvers_eq_map, resolvers_eq_map]
      exact List.map_congr_left fun c hc => ih c hc fun κ hκ =>
        htable κ (Node.mem_kinds_of_mem_children hc hκ)
    have hname : g.sharedName? (.mk a children) = g'.sharedName? (.mk a children) := by
      rw [sharedName?, sharedName?, hextracts]
    have hconvert : g.applyConverter (.mk a children) (g'.resolvers children) =
        g'.applyConverter (.mk a children) (g'.resolvers children) := by
      funext s
      rw [applyConverter, applyConverter, htable _ (Node.kind_mem_kinds _)]
    rw [resolver, resolver, hbelow, resolveNode_congr hname hconvert]

theorem run_congr (hextracts : g.extractsDefinitions = g'.extractsDefinitions) {root : Node}
    (htable : ∀ κ ∈ root.kinds, get? g.table κ = get? g'.table κ) : g.run root = g'.run root := by
  rw [run, run, resolve, resolve, resolver_congr hextracts htable]

theorem AgreesOn.generate_eq {root : Node} (h : g.AgreesOn g' root) :
    g.generate root = g'.generate root ∧ g.events root = g'.events root := by
  have hrun := run_congr h.extracts h.table
  have hfinish (r : Outcome × Progress) : g.finish r = g'.finish r := by
    rcases r with ⟨e | _ | k, s⟩
    · rfl
    · rfl
    · rw [finish, finish, document, document, h.dialect]
  rw [generate, generate, events, events, hrun, hfinish]
  exact ⟨rfl, rfl⟩

/-- **Overrides act only on the kinds they replace.** Generators with the same settings that have the
same converters for the kinds of a tree give the same document or error for it, and report the same.
So of all replacements that were made one after the other only the last one for each kind of the tree
is of account, and there is no change without one. The draft-04 profiles only differ in trees with
decimals. -/
theorem overrides_act_on_their_kinds :
    (∀ (g g' : Generator) (root : Node), g.AgreesOn g' root →
      g.generate root = g'.generate root ∧ g.events root = g'.events root) ∧
    (∀ (g : Generator) (css dss : List (List (Kind × Converter))) (root : Node),
      (∀ κ ∈ root.kinds, get? css.flatten.reverse κ = get? dss.flatten.reverse κ) →
        (css.foldl registerAll g).generate root = (dss.foldl registerAll g).generate root ∧
          (css.foldl registerAll g).events root = (dss.foldl registerAll g).events root) ∧
    (∀ (g : Generator) (css : List (List (Kind × Converter))) (root : Node),
      (∀ κ ∈ root.kinds, κ ∉ keys css.flatten) →
        (css.foldl registerAll g).generate root = g.generate root ∧
          (css.foldl registerAll g).events root = g.events root) ∧
    ∀ (extracts : Bool) (dialect : Option String) (root : Node),
      (∀ κ ∈ root.kinds, κ.isDecimal = false) →
        (Profile.draft4.generator extracts dialect).generate root =
            (Profile.draft4DecimalString.generator extracts dialect).generate root ∧
          (Profile.draft4.generator extracts dialect).events root =
            (Profile.draft4DecimalString.generator extracts dialect).events root := by
  refine ⟨fun g g' root h => h.generate_eq, fun g css dss root h => ?_, fun g css root h => ?_,
    fun extracts dialect root h => ?_⟩
  · rw [foldl_registerAll, foldl_registerAll]
    refine AgreesOn.generate_eq ⟨rfl, rfl, fun κ hκ => ?_⟩
    rw [get?_registerAll, get?_registerAll, h κ hκ]
  · rw [foldl_registerAll]
    refine AgreesOn.generate_eq ⟨rfl, rfl, fun κ hκ => ?_⟩
    have hnone : get? css.flatten.reverse κ = none := by
      rw [get?_eq_none_iff, keys, List.map_reverse, List.mem_reverse]
      exact h κ hκ
    rw [get?_registerAll, hnone, Option.none_or]
  · refine AgreesOn.generate_eq ⟨rfl, rfl, fun κ hκ => ?_⟩
    have hdecimal := h κ hκ
    change get? Profile.draft4.table κ = get? Profile.draft4DecimalString.table κ
    rw [Profile.get?_table, Profile.get?_table]
    cases κ <;> first | rfl | cases hdecimal

/-- Two answers with a text, and their number. -/
def survey : Node :=
  let answer := ((Node.ofKind .object).withTypeName "Answer").field "text" (.ofKind .string)
  (((Node.ofKind .object).field "first" answer).field "second" answer).field "count"
    (.ofKind .integer)

/-- The texts of a survey are converted in the same way by two generators that were made in different
ways, and nothing else in it is of a kind with a replacement. -/
theorem survey_overridden :
    let text := Converter.const (some [("type", .string "text")])
    let g := (Profile.draft4.generator true none).registerAll [(.string, .const none), (.money, text)]
    let g' := (Profile.draft4DecimalString.generator true none).register .string text
    survey.kinds = [.object, .object, .string, .object, .string, .integer] ∧
      (g.register .string text).events survey = g'.events survey ∧
      (g.register .string text).generate survey =
        ((g.register .string .failing).register .string text).generate survey ∧
      (g'.register .decimal .failing).generate survey = g'.generate survey ∧
      (Profile.draft4.generator false none).generate survey =
        (Profile.draft4DecimalString.generator false none).generate survey ∧
      g'.events survey = [.cachingDefinition "Answer" [.property "first"],
        .emittingReference "Answer" [.property "first"],
        .emittingReference "Answer" [.property "second"]] := by
  intro text g g'
  have hkinds : survey.kinds = [.object, .object, .string, .object, .string, .integer] := rfl
  obtain ⟨hagree, hlast, hother, hdecimal⟩ := overrides_act_on_their_kinds
  have htable : (g.register .string text).AgreesOn g' survey := by
    refine ⟨rfl, rfl, ?_⟩
    simp only [hkinds, List.forall_mem_cons]
    exact ⟨rfl, rfl, rfl, rfl, rfl, rfl, List.forall_mem_nil _⟩
  have hreplaced := hlast g [[(.string, text)]] [[(.string, .failing)], [(.string, text)]] survey
    fun κ _ => by cases κ <;> rfl
  have hunused := hother g' [[(.decimal, .failing)]] survey (by rw [hkinds]; decide)
  have hprofiles := hdecimal false none survey (by rw [hkinds]; decide)
  refine ⟨hkinds, (hagree _ _ _ htable).2, ?_, ?_, hprofiles.1, rfl⟩
  · simp only [register_eq_registerAll]
    exact hreplaced.1
  · rw [register_eq_registerAll]
    exact hunused.1

end Generator

end SchemaTree
