import SchemaTree.Proofs.Inline

/-!
# Where a conversion fails

A conversion fails only at a reachable node without a converter, and only decimals are without one.
Without definitions it fails as soon as there is such a node, and names the first in pre-order;
with definitions a type that has been converted is not walked again.

* `Profile.resolve_failure`: an error is that of a reachable node, whatever the conventions;
* `Profile.failure?_eq_decimal`: the first node without a converter is the first decimal;
* **`Profile.fails_exactly_at_decimals`**.
-/

namespace SchemaTree

namespace Profile

variable (p : Profile) (extracts : Bool) (dialect : Option String)

/-- The error names a reachable node without a converter. -/
def Locates (path : Path) (n : Node) (e : ConversionError) : Prop :=
  ∃ m, (e.path, m) ∈ n.reachable path ∧ m.kind = e.kind ∧ p.converts m.kind = false

/-- An error of resolving a node names a reachable node. -/
def FailsLocated : Postcondition Node (Option Keywords) :=
  fun n s r => ∀ e, r.1 = .error e → p.Locates s.path n e

/-- An error of resolving parts names a node that is reachable through one of them. -/
def PartFailsLocated : Postcondition (List (Segment × Node)) (List (Option Keywords)) :=
  fun parts s r => ∀ e, r.1 = .error e → ∃ f ∈ parts, p.Locates (s.path.push f.1) f.2 e

theorem emitReference_ne_error (name : String) (s : Progress) (e : ConversionError) :
    (Generator.emitReference name s).1 ≠ .error e := by
  rw [Generator.emitReference]
  cases s.definition? name <;> exact fun h => by cases h

theorem inductive_failsLocated :
    p.Inductive extracts dialect p.FailsLocated p.FailsLocated p.PartFailsLocated where
  unregistered n s hn e he := by
    cases he
    exact ⟨n, n.self_mem_reachable s.path, rfl, hn⟩
  failed n s e t _ h e' he := by
    cases he
    obtain ⟨f, hf, m, hm, hkind⟩ := h e rfl
    exact ⟨m, Node.mem_reachable_of_mem_parts hf hm, hkind⟩
  assembled n s ks t _ _ e he := by cases he
  inlined n s r _ h := h
  known n s name _ _ e he := absurd he (emitReference_ne_error name _ e)
  broken n s name e t _ _ h := h
  defined n s name k t _ _ _ e he := absurd he (emitReference_ne_error name _ e)
  nil s e he := by cases he
  partFailed segment c parts s e t h e' he := by
    cases he
    exact ⟨(segment, c), List.mem_cons_self, h e rfl⟩
  partResolved segment c parts s k t r u _ hs e he := by
    cases r with
    | error e' =>
      obtain ⟨f, hf, hlocates⟩ := hs e' rfl
      simp only [Progress.path_noteResult, Progress.path_leave] at hlocates
      cases he
      exact ⟨f, List.mem_cons_of_mem _ hf, hlocates⟩
    | ok ks => cases he

/-- **An error names a reachable node without a converter.** -/
theorem resolve_failure (n : Node) (s : Progress) :
    p.FailsLocated n s ((p.generator extracts dialect).resolve n s) :=
  resolve_induction (p.inductive_failsLocated extracts dialect) n s

theorem generate_failure {root : Node} {e : ConversionError}
    (h : (p.generator extracts dialect).generate root = .error e) : p.Locates [] root e :=
  p.resolve_failure extracts dialect root {} e (Generator.run_eq_error h)

variable {p} in
theorem not_converts_iff {κ : Kind} :
    p.converts κ = false ↔ p ≠ draft4DecimalString ∧ (κ = .decimal ∨ κ = .money) := by
  rw [converts_eq]
  cases p <;> cases κ <;> decide

variable {p} in
theorem failure?_eq_decimal (hp : p ≠ draft4DecimalString) (path : Path) (n : Node) :
    p.failure? path n =
      ((n.reachable path).find? fun e => e.2.kind.isDecimal).map fun e => ⟨e.2.kind, e.1⟩ := by
  simp [failure?, converts_eq, hp]

theorem generate_eq_error_iff {root : Node} {e : ConversionError} :
    (p.generator false dialect).generate root = .error e ↔ p.failure? [] root = some e := by
  rw [generate_inline]
  cases p.failure? [] root <;> simp

/-- **A conversion fails exactly at decimals.** With decimals as strings it never fails. The other
profiles fail without definitions if and only if a decimal is reachable, at the first one in
pre-order; with definitions, an error still names a reachable decimal. -/
theorem fails_exactly_at_decimals (dialect : Option String) (root : Node) :
    (∀ extracts, ∃ document,
      (draft4DecimalString.generator extracts dialect).generate root = .ok document) ∧
    (∀ p : Profile, p = draft4 ∨ p = swagger2 →
      ((∃ e, (p.generator false dialect).generate root = .error e) ↔
        ∃ f ∈ root.reachable [], f.2.kind = .decimal ∨ f.2.kind = .money) ∧
      ∀ e, (p.generator false dialect).generate root = .error e ↔
        ∃ n, ((root.reachable []).find? fun f => f.2.kind = .decimal ∨ f.2.kind = .money) =
          some (e.path, n) ∧ n.kind = e.kind) ∧
    ∀ (p : Profile) (e : ConversionError), (p.generator true dialect).generate root = .error e →
      ∃ n, (e.path, n) ∈ root.reachable [] ∧ n.kind = e.kind ∧
        (n.kind = .decimal ∨ n.kind = .money) := by
  refine ⟨fun extracts => ?_, fun p hp => ?_, fun p e h => ?_⟩
  · cases h : (draft4DecimalString.generator extracts dialect).generate root with
    | ok document => exact ⟨document, rfl⟩
    | error e =>
      obtain ⟨m, -, -, hm⟩ := generate_failure _ _ _ h
      exact absurd rfl (not_converts_iff.1 hm).1
  · have hne : p ≠ draft4DecimalString := by rcases hp with rfl | rfl <;> decide
    have hfirst := failure?_eq_decimal hne [] root
    have hdecimal : (fun f : Path × Node => f.2.kind.isDecimal) =
        fun f => decide (f.2.kind = .decimal ∨ f.2.kind = .money) :=
      funext fun f => by cases f.2.kind <;> rfl
    rw [hdecimal] at hfirst
    simp only [generate_eq_error_iff]
    refine ⟨?_, fun e => ?_⟩
    · rw [← Option.isSome_iff_exists, isSome_failure?_iff]
      simp only [not_converts_iff, hne, ne_eq, not_false_eq_true, true_and]
    · rw [hfirst, Option.map_eq_some_iff]
      constructor
      · rintro ⟨⟨q, m⟩, hfind, rfl⟩
        exact ⟨m, hfind, rfl⟩
      · rintro ⟨m, hfind, hkind⟩
        exact ⟨(e.path, m), hfind, by rw [hkind]⟩
  · obtain ⟨m, hm, hkind, hconverts⟩ := p.generate_failure true dialect h
    exact ⟨m, hm, hkind, (not_converts_iff.1 hconverts).2⟩

/-- An object with amounts of money in a list, and one after it. -/
def invoice : Node :=
  (Node.ofKind .object).field "id" (.ofKind .string)
    |>.field "prices" ((Node.ofKind .array).child (.ofKind .money))
    |>.field "total" (.ofKind .decimal)

/-- The amount in the list is the one that is named. -/
theorem invoice_fails :
    (swagger2.generator false none).generate invoice =
        .error ⟨.money, [.property "prices", .items]⟩ ∧
      ∀ e, (swagger2.generator true none).generate invoice = .error e →
        e.kind = .decimal ∨ e.kind = .money := by
  obtain ⟨-, hfirst, hlocated⟩ := fails_exactly_at_decimals none invoice
  refine ⟨((hfirst swagger2 (Or.inr rfl)).2 _).2 ⟨.ofKind .money, rfl, rfl⟩, fun e he => ?_⟩
  obtain ⟨n, -, hkind, hdecimal⟩ := hlocated swagger2 e he
  exact hkind ▸ hdecimal

end Profile

end SchemaTree
