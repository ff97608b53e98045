import SchemaTree.Proofs.Closed
import SchemaTree.Proofs.Inline

/-!
# Definitions as sharing

If objects of one type name are the same apart from their own names, then definitions only share
what would else be written more than once: a conversion with definitions does the same as one
without, up to dereferencing.

* `Node.Consistent`;
* `Expands`: a result is another one when its references are expanded, also with later definitions;
* `Profile.Shares`: every definition expands to the inline keywords of every object of its name;
* **`Profile.resolve_simulates`**: resolving with definitions gives what it gives without them;
* **`Profile.dereference_generate`**.
-/

namespace SchemaTree

open OrderedMap

/-- Objects of one type name that a conversion can meet are equal apart from their own names. -/
def Node.Consistent (root : Node) : Prop :=
  ∀ e ∈ root.reachable [], ∀ e' ∈ root.reachable [], e.2.kind = .object → e'.2.kind = .object →
    ∀ name, e.2.typeName = some name → e'.2.typeName = some name → e.2.named "" = e'.2.named ""

/-- Expanding the references of `r` with the definitions `D`, or with these and later ones, gives
`r'`; `lift` applies a function to all keywords of a result. -/
def Expands {α : Type} (lift : (Keywords → Keywords) → α → α) (D : Definitions)
    (r r' : Except ConversionError α) : Prop :=
  ∀ D' : Definitions, D <+: D' → ∀ depth, D.length ≤ depth →
    r.map (lift (Json.expand D'.schemas depth)) = r'

namespace Profile

open Definitions

/-! ## Nodes that are equal apart from their names -/

variable {p : Profile}

theorem failure?_eq_none_of_path {n : Node} :
    ∀ {path path' : Path}, p.failure? path n = none → p.failure? path' n = none := by
  induction n using Node.parts_induction with
  | h n ih =>
    intro path path' h
    have hn := converts_of_failure?_eq_none h
    rw [failure?_eq, if_pos hn, List.findSome?_eq_none_iff] at h ⊢
    exact fun e he => ih e he (h e he)

theorem inline_congr {n n' : Node} (hn : n.kind = .object) (h : n.named "" = n'.named "") :
    p.inline n = p.inline n' ∧ n.kind = n'.kind ∧ n.parts = n'.parts := by
  obtain ⟨⟨κ, name, t, r, title, description, default, c, s⟩, cs⟩ := n
  obtain ⟨⟨κ', name', t', r', title', description', default', c', s'⟩, cs'⟩ := n'
  simp only [Node.named, Node.withAttributes, Node.attributes, Node.children, Node.mk.injEq,
    Attributes.mk.injEq, true_and] at h
  obtain ⟨⟨rfl, rfl, rfl, rfl, rfl, rfl, rfl, rfl⟩, rfl⟩ := h
  obtain rfl : κ = .object := hn
  refine ⟨?_, rfl, rfl⟩
  rw [inline_eq, inline_eq]
  cases p <;> rfl

/-- Objects that are equal apart from their names give the same without definitions, if they do not
fail. -/
theorem inlineOutcome_congr {n n' : Node} (hn : n.kind = .object) (h : n.named "" = n'.named "")
    {path path' : Path} {o : Option Keywords} (ho : p.inlineOutcome path n = .ok o) :
    p.inlineOutcome path' n' = .ok o := by
  obtain ⟨hinline, hkind, hparts⟩ := inline_congr (p := p) hn h
  cases hf : p.failure? path n with
  | some e =>
    rw [inlineOutcome, hf] at ho
    cases ho
  | none =>
    have hf' : p.failure? path' n' = none := by
      rw [failure?_eq, ← hkind, ← hparts, ← failure?_eq]
      exact failure?_eq_none_of_path hf
    rw [inlineOutcome, hf] at ho
    rw [inlineOutcome, hf', ← hinline]
    exact ho

/-! ## Simulation -/

variable (p : Profile) (root : Node)

/-- The keywords expand to the inline keywords of every object of this type name. -/
def Represents (D : Definitions) (name : String) (k : Keywords) : Prop :=
  ∀ e ∈ root.reachable [], e.2.kind = .object → e.2.typeName = some name →
    Expands Option.map D (.ok (some k)) (p.inlineOutcome e.1 e.2)

/-- Every definition expands to the inline keywords of every object of its name. -/
def Shares : Definitions → Prop := Built (p.Represents root)

/-- The computation for what `meets` finds in the tree only adds definitions and gives `result` when
its references are expanded. -/
def Simulates {σ α : Type} (lift : (Keywords → Keywords) → α → α) (meets : Path → σ → Prop)
    (result : Path → σ → Except ConversionError α) : Postcondition σ α := fun a s r =>
  meets s.path a → p.Shares root s.definitions →
    s.definitions <+: r.2.definitions ∧ p.Shares root r.2.definitions ∧
      Expands lift r.2.definitions r.1 (result s.path a)

/-- Resolving a node of the tree gives its inline keywords or fails as without definitions. -/
abbrev NodeSimulates : Postcondition Node (Option Keywords) :=
  p.Simulates root Option.map (fun path n => (path, n) ∈ root.reachable []) p.inlineOutcome

/-- Resolving parts of a node of the tree gives their inline keywords or fails as without
definitions. -/
abbrev PartsSimulate : Postcondition (List (Segment × Node)) (List (Option Keywords)) :=
  p.Simulates root (fun f => List.map (Option.map f))
    (fun path parts => ∀ e ∈ parts, (path.push e.1, e.2) ∈ root.reachable []) p.inlineOutcomes

variable {p root} {dialect : Option String} {n : Node} {s t : Progress} {name : String}

theorem sharedName?_eq_some_iff : (p.generator true dialect).sharedName? n = some name ↔
    n.kind = .object ∧ n.typeName = some name := by
  rw [Generator.sharedName?]
  change (if (true && decide (n.kind = .object)) = true then n.typeName else none) = _ ↔ _
  by_cases hn : n.kind = .object <;> simp [hn]

theorem NodeSimulates.of_parts (hn : p.converts n.kind = true)
    {r : Except ConversionError (List (Option Keywords))} (h : p.PartsSimulate root n.parts s (r, t)) :
    p.NodeSimulates root n s (r.map fun ks => some (p.assemble n ks), t) := by
  intro hmem hs
  obtain ⟨hlater, ht, hr⟩ := h (fun e he => Node.part_mem_reachable hmem he) hs
  refine ⟨hlater, ht, fun D hD depth hdepth => ?_⟩
  rw [inlineOutcome_eq hn, ← hr D hD depth hdepth]
  cases r with
  | error e => rfl
  | ok ks =>
    change Except.ok (some (Json.expand D.schemas depth (p.assemble n ks))) = _
    rw [expand_assemble]
    rfl

theorem NodeSimulates.emitReference (hname : (p.generator true dialect).sharedName? n = some name)
    (h : (s.path, n) ∈ root.reachable [] → p.Shares root s.definitions →
      s.definitions <+: t.definitions ∧ p.Shares root t.definitions ∧ name ∈ keys t.definitions) :
    p.NodeSimulates root n s (Generator.emitReference name t) := by
  intro hmem hs
  obtain ⟨hlater, ht, hdefined⟩ := h hmem hs
  rw [ht.emitReference hdefined]
  refine ⟨hlater, ht, fun D hD depth hdepth => ?_⟩
  obtain ⟨k, D', hget, hD', hlt, hk⟩ := ht.exists_of_mem hdefined
  obtain ⟨hkind, htype⟩ := sharedName?_eq_some_iff.1 hname
  -- One step of the expansion goes to the definition, which needs fewer than all definitions.
  obtain ⟨depth, rfl⟩ : ∃ d, depth = d + 1 := ⟨depth - 1, by simp at hdepth; omega⟩
  have hdefinition := hk _ hmem hkind htype D (hD'.trans hD) depth (by simp at hdepth; omega)
  rw [← hdefinition]
  change Except.ok (some (Json.expand _ _ (Keywords.reference name))) = _
  rw [Json.expand_reference (get?_schemas_of_isPrefix hD hget)]
  rfl

theorem represents_of_expands (hroot : root.Consistent) (hmem : (s.path, n) ∈ root.reachable [])
    (hkind : n.kind = .object) (htype : n.typeName = some name) {D : Definitions}
    {o : Option Keywords} (h : Expands Option.map D (.ok o) (p.inlineOutcome s.path n)) :
    ∃ k, o = some k ∧ p.Represents root D name k := by
  have hok {D'} (hD : D <+: D') {depth} (hdepth : D.length ≤ depth) := (h D' hD depth hdepth).symm
  cases o with
  | none =>
    have := hok (List.prefix_refl D) (Nat.le_refl _)
    rw [inlineOutcome] at this
    cases hf : p.failure? s.path n <;> rw [hf] at this <;> cases this
  | some k =>
    refine ⟨k, rfl, fun e he hkind' htype' D' hD depth hdepth => ?_⟩
    have hsame := hroot _ hmem e he hkind hkind' name htype htype'
    exact (inlineOutcome_congr hkind hsame (hok hD hdepth)).symm

theorem inductive_simulates (p : Profile) (dialect : Option String) (hroot : root.Consistent) :
    p.Inductive true dialect (p.NodeSimulates root) (p.NodeSimulates root)
      (p.PartsSimulate root) where
  unregistered n s hn _ hs := by
    refine ⟨List.prefix_refl _, hs, fun D _ depth _ => ?_⟩
    rw [inlineOutcome, failure?_eq, if_neg (by simp [hn])]
    rfl
  failed n s e t hn h := NodeSimulates.of_parts hn h
  assembled n s ks t hn h := NodeSimulates.of_parts hn h
  inlined n s r _ h := h
  known n s name hname hdefined := NodeSimulates.emitReference hname fun _ hs =>
    ⟨List.prefix_refl _, hs, (mem_keys_iff _ _).2 hdefined⟩
  broken n s name e t _ _ h := h
  defined n s name o t hname _ h := NodeSimulates.emitReference hname fun hmem hs => by
    obtain ⟨hlater, ht, ho⟩ := h hmem hs
    obtain ⟨hkind, htype⟩ := sharedName?_eq_some_iff.1 hname
    obtain ⟨k, rfl, hk⟩ := represents_of_expands hroot hmem hkind htype ho
    obtain ⟨hlater', ht', hdefined⟩ :=
      Built.define (s := t.report (.cachingDefinition name t.path)) ht fun _ => hk
    exact ⟨hlater.trans hlater', ht', hdefined⟩
  nil s _ hs := ⟨List.prefix_refl _, hs, fun _ _ _ _ => rfl⟩
  partFailed segment c parts s e t h hmem hs := by
    obtain ⟨hlater, ht, he⟩ := h (hmem _ List.mem_cons_self) hs
    refine ⟨hlater, ht, fun D hD depth hdepth => ?_⟩
    rw [inlineOutcomes_cons, ← Progress.path_enter, ← he D hD depth hdepth]
    rfl
  partResolved segment c parts s o t r u h hrest hmem hs := by
    obtain ⟨hlater, ht, ho⟩ := h (hmem _ List.mem_cons_self) hs
    simp only [Simulates, Progress.definitions_noteResult, Progress.definitions_leave,
      Progress.path_noteResult, Progress.path_leave] at hrest
    obtain ⟨hlater', hu, hr⟩ := hrest (fun e he => hmem e (List.mem_cons_of_mem _ he)) ht
    refine ⟨hlater.trans hlater', hu, fun D hD depth hdepth => ?_⟩
    rw [inlineOutcomes_cons, ← Progress.path_enter, ← hr D hD depth hdepth,
      ← ho D (hlater'.trans hD) depth (Nat.le_trans hlater'.length_le hdepth)]
    cases r <;> rfl

/-- **Resolving a node of a consistent tree with definitions gives, with its references expanded,
what it gives without.** -/
theorem resolve_simulates (p : Profile) (dialect : Option String) (hroot : root.Consistent)
    (n : Node) (s : Progress) :
    p.NodeSimulates root n s ((p.generator true dialect).resolve n s) :=
  resolve_induction (inductive_simulates p dialect hroot) n s

/-! ## Documents -/

/-- **Definitions are only sharing.** For a consistent tree, the document with definitions is, once
dereferenced, the document without them; if there is none, both fail with the same error. -/
theorem dereference_generate (p : Profile) (dialect : Option String) {root : Node}
    (hroot : root.Consistent) :
    ((p.generator true dialect).generate root).map Json.dereference =
      (p.generator false dialect).generate root := by
  obtain ⟨-, -, hexpands⟩ :=
    p.resolve_simulates dialect hroot root {} (root.self_mem_reachable []) .nil
  have hrun := hexpands _ (List.prefix_refl _) _ (Nat.le_refl _)
  rw [generate_inline]
  cases hg : (p.generator true dialect).generate root with
  | error e =>
    have herror := Generator.run_eq_error hg
    rw [Generator.run] at herror
    rw [herror, inlineOutcome] at hrun
    cases hf : p.failure? [] root with
    | some e' =>
      rw [hf] at hrun
      exact congrArg Except.error (Except.error.inj hrun)
    | none =>
      rw [hf] at hrun
      cases hrun
  | ok document =>
    obtain ⟨k, t, hr, hk, -, -, rfl⟩ := generate_ordered hg
    rw [Generator.run] at hr
    rw [hr, inlineOutcome] at hrun
    cases hf : p.failure? [] root with
    | some e =>
      rw [hf] at hrun
      cases hrun
    | none =>
      rw [hf] at hrun
      have hinline : Json.expand t.definitions.schemas t.definitions.length k = p.inline root :=
        Option.some.inj (Except.ok.inj hrun)
      have hnot := (rootable_inline (converts_of_failure?_eq_none hf)).1
      rw [Except.map, Json.dereference_document _ _ hk, length_schemas, hinline,
        erase_of_not_mem hnot]

/-- An object of type `Person`, with a default that only looks like a reference. -/
def person : Node :=
  (Node.ofKind .object).withTypeName "Person" |>.field "name"
    ((Node.ofKind .string).withDefault (.object [("$ref", .string "#/definitions/Person")]))

/-- An object with two persons. -/
def team : Node := (Node.ofKind .object).field "lead" person |>.field "deputy" person

theorem team_consistent : team.Consistent := by
  have hperson : ∀ e ∈ team.reachable [], ∀ name, e.2.typeName = some name →
      e.2.named "" = person := by
    rw [show team.reachable [] = [([], team), ([.property "lead"], person.named "lead"),
      ([.property "lead", .property "name"], _), ([.property "deputy"], person.named "deputy"),
      ([.property "deputy", .property "name"], _)] from rfl]
    simp only [List.forall_mem_cons]
    refine ⟨?_, fun _ _ => rfl, ?_, fun _ _ => rfl, ?_, by simp⟩ <;> exact fun _ h => by cases h
  intro e he e' he' _ _ name h h'
  rw [hperson e he name h, hperson e' he' name h']

/-- The persons are shared, and dereferencing undoes just that. -/
theorem team_dereferenced :
    ∃ document, (draft4.generator true none).generate team = .ok document ∧
      keys document.definitions = ["Person"] ∧ document.references.length = 2 ∧
      (draft4.generator false none).generate team = .ok document.dereference := by
  obtain ⟨document, h⟩ : ∃ document, (draft4.generator true none).generate team = .ok document :=
    ⟨_, rfl⟩
  have hinline := dereference_generate draft4 none team_consistent
  rw [h] at hinline
  refine ⟨document, h, ?_, ?_, hinline.symm⟩ <;> cases h <;> rfl

end Profile

end SchemaTree
