import SchemaTree.Proofs.Document

/-!
# Conversion without definitions

Without definitions a conversion is a function of the tree alone: it fails at the first reachable
node without a converter, and where there is none it gives the **inline** keywords of the node.

* `Profile.inline`, with `inline_eq`;
* `Profile.failure?`: the first reachable node without a converter, with `failure?_eq`;
* **`Profile.resolve_inline`**: both together say what resolving a node gives;
* `Profile.generate_inline`: the documents.
-/

namespace SchemaTree

open OrderedMap

namespace Profile

/-! ## Inline keywords -/

mutual

/-- The keywords of a node with everything below it in place. -/
def inline (p : Profile) : Node → Keywords
  | .mk a children =>
    p.assemble (.mk a children)
      (if a.kind.isObject then inlineAll p children
      else if a.kind.isArray then (inlineAll p children).take 1
      else [])

/-- The inline keywords of a list of nodes. -/
def inlineAll (p : Profile) : List Node → List (Option Keywords)
  | [] => []
  | c :: cs => some (inline p c) :: inlineAll p cs

end

theorem inlineAll_eq_map (p : Profile) (cs : List Node) :
    inlineAll p cs = cs.map fun c => some (p.inline c) := by
  induction cs with
  | nil => rfl
  | cons c cs ih => rw [inlineAll, ih, List.map_cons]

theorem inline_eq (p : Profile) (n : Node) :
    p.inline n = p.assemble n (n.parts.map fun e => some (p.inline e.2)) := by
  obtain ⟨a, children⟩ := n
  rw [inline, Node.parts, Node.kind, Node.attributes, inlineAll_eq_map]
  congr 1
  split_ifs
  · rw [List.map_map]
    rfl
  · rw [Node.item?, Node.children]
    cases children <;> rfl
  · rfl

/-! ## The first failure -/

/-- The failure that the first reachable node without a converter causes. -/
def failure? (p : Profile) (path : Path) (n : Node) : Option ConversionError :=
  ((n.reachable path).find? fun e => !p.converts e.2.kind).map fun e => ⟨e.2.kind, e.1⟩

/-- A node without a converter fails itself; any other fails where its first failing part does. -/
theorem failure?_eq (p : Profile) (path : Path) (n : Node) :
    p.failure? path n =
      if p.converts n.kind then n.parts.findSome? fun e => p.failure? (path.push e.1) e.2
      else some ⟨n.kind, path⟩ := by
  rw [failure?, Node.find?_reachable]
  cases h : p.converts n.kind with
  | false => rfl
  | true =>
    rw [if_neg (by simp), if_pos rfl, List.map_findSome?]
    rfl

theorem failure?_eq_none_iff {p : Profile} {path : Path} {n : Node} :
    p.failure? path n = none ↔ ∀ e ∈ n.reachable path, p.converts e.2.kind = true := by
  rw [failure?, Option.map_eq_none_iff, List.find?_eq_none]
  simp

theorem isSome_failure?_iff {p : Profile} {path : Path} {n : Node} :
    (p.failure? path n).isSome = true ↔ ∃ e ∈ n.reachable path, p.converts e.2.kind = false := by
  rw [failure?, Option.isSome_map, List.find?_isSome]
  simp

/-! ## Resolving without definitions -/

/-- What a node gives at a path without definitions. -/
def inlineOutcome (p : Profile) (path : Path) (n : Node) : Outcome :=
  match p.failure? path n with
  | some e => .error e
  | none => .ok (some (p.inline n))

/-- What parts give without definitions, below a node at a path. -/
def inlineOutcomes (p : Profile) (path : Path) (parts : List (Segment × Node)) :
    Except ConversionError (List (Option Keywords)) :=
  match parts.findSome? fun e => p.failure? (path.push e.1) e.2 with
  | some e => .error e
  | none => .ok (parts.map fun e => some (p.inline e.2))

theorem inlineOutcome_eq {p : Profile} {n : Node} (h : p.converts n.kind = true) (path : Path) :
    p.inlineOutcome path n =
      (p.inlineOutcomes path n.parts).map fun ks => some (p.assemble n ks) := by
  rw [inlineOutcome, failure?_eq, if_pos h, inlineOutcomes, inline_eq]
  cases n.parts.findSome? fun e => p.failure? (path.push e.1) e.2 <;> rfl

theorem inlineOutcomes_cons (p : Profile) (path : Path) (segment : Segment) (c : Node)
    (parts : List (Segment × Node)) :
    p.inlineOutcomes path ((segment, c) :: parts) =
      match p.inlineOutcome (path.push segment) c with
      | .error e => .error e
      | .ok k => (p.inlineOutcomes path parts).map (k :: ·) := by
  rw [inlineOutcomes, inlineOutcome, inlineOutcomes, List.findSome?_cons]
  cases p.failure? (path.push segment) c with
  | some e => rfl
  | none => cases parts.findSome? fun e => p.failure? (path.push e.1) e.2 <;> rfl

/-- The computation gives this result and leaves path and definitions as they were. -/
def Gives {σ α : Type} (result : Path → σ → Except ConversionError α) : Postcondition σ α :=
  fun a s r => r.1 = result s.path a ∧ r.2.path = s.path ∧ r.2.definitions = s.definitions

theorem inductive_inline (p : Profile) (dialect : Option String) :
    p.Inductive false dialect (Gives p.inlineOutcome) (Gives p.inlineOutcome)
      (Gives p.inlineOutcomes) where
  unregistered n s hn := by
    refine ⟨?_, rfl, rfl⟩
    rw [inlineOutcome, failure?_eq, if_neg (by simp [hn])]
  failed n s e t hn h := by
    refine ⟨?_, h.2⟩
    rw [inlineOutcome_eq hn, ← h.1]
    rfl
  assembled n s ks t hn h := by
    refine ⟨?_, h.2⟩
    rw [inlineOutcome_eq hn, ← h.1]
    rfl
  inlined n s r _ h := h
  known n s name hs := by cases hs
  broken n s name e t hs := by cases hs
  defined n s name k t hs := by cases hs
  nil s := ⟨rfl, rfl, rfl⟩
  partFailed segment c parts s e t h := by
    refine ⟨?_, rfl, h.2.2⟩
    rw [inlineOutcomes_cons, ← Progress.path_enter, ← h.1]
  partResolved segment c parts s k t r u h hs := by
    obtain ⟨hr, hpath, hdefs⟩ := hs
    simp only [Progress.path_noteResult, Progress.path_leave, Progress.definitions_noteResult,
      Progress.definitions_leave] at hr hpath hdefs
    refine ⟨?_, hpath, hdefs.trans h.2.2⟩
    rw [inlineOutcomes_cons, ← Progress.path_enter, ← h.1, ← hr]

/-- **Without definitions, a node fails at the first reachable node without a converter or gives its
inline keywords; path and definitions stay.** -/
theorem resolve_inline (p : Profile) (dialect : Option String) (n : Node) (s : Progress) :
    Gives p.inlineOutcome n s ((p.generator false dialect).resolve n s) :=
  resolve_induction (inductive_inline p dialect) n s

theorem rootable_inline {p : Profile} {n : Node} (h : p.converts n.kind = true) :
    Rootable (p.inline n) := by
  rw [inline_eq]
  exact rootable_assemble h _

theorem converts_of_failure?_eq_none {p : Profile} {path : Path} {n : Node}
    (h : p.failure? path n = none) : p.converts n.kind = true := by
  by_contra hn
  rw [failure?_eq, if_neg hn] at h
  cases h

theorem generate_inline (p : Profile) (dialect : Option String) (root : Node) :
    (p.generator false dialect).generate root =
      match p.failure? [] root with
      | some e => .error e
      | none => .ok (.object (p.inline root ++ dialectEntry dialect)) := by
  obtain ⟨hr, -, hdefs⟩ := p.resolve_inline dialect root {}
  rw [Generator.generate, Generator.run]
  rcases h : (p.generator false dialect).resolve root {} with ⟨r, t⟩
  rw [h] at hr hdefs
  simp only at hr hdefs
  rw [hr, inlineOutcome]
  cases hfailure : p.failure? [] root with
  | some e => rfl
  | none =>
    have hshared : t.sharedSchemas = [] := by
      rw [Progress.sharedSchemas, hdefs]
      rfl
    change Except.ok (Json.object (Generator.document _ (p.inline root) t.sharedSchemas)) = _
    rw [hshared, document_eq p false dialect
      (rootable_inline (converts_of_failure?_eq_none hfailure)),
      show definitionsEntry [] = [] from rfl, List.append_nil]

end Profile

end SchemaTree
