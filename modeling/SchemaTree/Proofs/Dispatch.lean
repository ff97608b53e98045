import SchemaTree.Profile
import SchemaTree.Proofs.Merge

/-!
# Constraints are merged

Rules see the leaves of a constraint only. Each leaf gives what the first rule with any keywords
gives, and the keywords for a constraint are the merge of those for its leaves. So it is of no
account how constraints have been joined.

* `Constraint.Joins`, `Node.leaves`: constraints joined in any way, and those of a node;
* `Rule.FirstMatch`, with `firstMatch_iff`: the first rule that gives any keywords;
* `Rule.collect_eq_foldl`, `Rule.collect_all`: keywords by leaves and by members;
* **`Rule.constraints_are_merged`**.
-/

namespace SchemaTree

open OrderedMap

/-! ## Joined constraints -/

/-- The constraint joins others, in order and however they are bracketed. -/
inductive Constraint.Joins : List Constraint → Constraint → Prop
  | single (c : Constraint) : Joins [c] c
  | and {cs ds : List Constraint} {c d : Constraint} :
    Joins cs c → Joins ds d → Joins (cs ++ ds) (c.and d)

theorem Constraint.Joins.leaves_eq {cs : List Constraint} {c : Constraint} (h : Joins cs c) :
    c.leaves = cs.flatMap leaves := by
  induction h with
  | single c => exact (List.flatMap_singleton _ _).symm
  | and _ _ ihc ihd => rw [leaves_and, ihc, ihd, List.flatMap_append]

theorem Constraint.leaves_all (cs : List Constraint) : (all cs).leaves = cs.flatMap leaves := by
  rw [leaves, leavesOfAll_eq_flatMap]

/-- The rules that the constraint of a node joins. -/
def Node.leaves (n : Node) : List Constraint :=
  n.attributes.constraint.toList.flatMap Constraint.leaves

theorem Node.leaves_withConstraint (n : Node) (c : Constraint) :
    (n.withConstraint c).leaves = n.leaves ++ c.leaves := by
  obtain ⟨a, children⟩ := n
  cases ha : a.constraint with
  | none => simp [leaves, withConstraint, withAttributes, attributes, ha]
  | some earlier =>
    simp [leaves, withConstraint, withAttributes, attributes, ha, Constraint.leaves_and]

theorem Node.leaves_foldl_withConstraint (n : Node) (cs : List Constraint) :
    (cs.foldl withConstraint n).leaves = n.leaves ++ cs.flatMap Constraint.leaves := by
  induction cs generalizing n with
  | nil => rw [List.foldl_nil, List.flatMap_nil, List.append_nil]
  | cons c cs ih =>
    rw [List.foldl_cons, ih, leaves_withConstraint, List.flatMap_cons, List.append_assoc]

namespace Rule

/-! ## The first match -/

/-- The keywords are those of the first rule that gives any for a constraint on a node, or there is
no such rule and there are none. -/
inductive FirstMatch (n : Node) (c : Constraint) : List Rule → Keywords → Prop
  | none : FirstMatch n c [] []
  | passed {r : Rule} {rules : List Rule} {k : Keywords} (h : ∀ k', r n c = some k' → k' = []) :
    FirstMatch n c rules k → FirstMatch n c (r :: rules) k
  | found {r : Rule} {rules : List Rule} {k : Keywords} (h : r n c = some k) (hk : k ≠ []) :
    FirstMatch n c (r :: rules) k

theorem firstMatch_iff {rules : List Rule} {n : Node} {c : Constraint} {k : Keywords} :
    FirstMatch n c rules k ↔ leafKeywords rules n c = k := by
  constructor
  · intro h
    induction h with
    | none => rfl
    | @passed r rules k h _ ih =>
      have hpassed : (r n c).filter (fun k => !k.isEmpty) = Option.none := by
        rw [Option.filter_eq_none_iff]
        intro k' hk'
        rw [h k' hk']
        decide
      rw [leafKeywords, firstKeywords?, List.findSome?_cons, hpassed]
      exact ih
    | @found r rules k h hk =>
      have hfound : (r n c).filter (fun k => !k.isEmpty) = some k :=
        Option.filter_eq_some_iff.2 ⟨h, by simpa using hk⟩
      rw [leafKeywords, firstKeywords?, List.findSome?_cons, hfound]
      rfl
  · rintro rfl
    induction rules with
    | nil => exact .none
    | cons r rules ih =>
      rw [leafKeywords, firstKeywords?, List.findSome?_cons]
      cases hr : (r n c).filter fun k => !k.isEmpty with
      | none =>
        refine .passed (fun k' hk' => ?_) ih
        simpa [hk'] using hr
      | some k =>
        obtain ⟨hsome, hk⟩ := Option.filter_eq_some_iff.1 hr
        exact .found hsome (by simpa using hk)

/-- The rule gives maps: it stores nothing twice under one key. -/
def GivesMaps (r : Rule) : Prop := ∀ n c k, r n c = some k → (keys k).Nodup

theorem nodup_leafKeywords {rules : List Rule} (h : ∀ r ∈ rules, r.GivesMaps) (n : Node)
    (c : Constraint) : (keys (leafKeywords rules n c)).Nodup := by
  rw [leafKeywords]
  cases hk : firstKeywords? rules n c with
  | none => exact List.nodup_nil
  | some k =>
    obtain ⟨r, hr, hrk⟩ := List.exists_of_findSome?_eq_some hk
    exact h r hr n c k (Option.eq_some_of_filter_eq_some hrk)

theorem givesMaps_length {maxKey minKey : String} (h : maxKey ≠ minKey) :
    (length maxKey minKey).GivesMaps := by
  intro n c k hk
  cases c with
  | length min max =>
    obtain rfl := Option.some.inj hk
    cases min <;> cases max <;> simp [boundEntry, extend, OrderedMap.insert, keys, h]
  | _ => cases hk

theorem givesMaps_textForm : textForm.GivesMaps := by
  intro n c k hk
  cases c <;> cases hk <;> exact List.nodup_singleton _

theorem givesMaps_nullableChoices (nullValues : List Json) :
    (nullableChoices nullValues).GivesMaps := by
  intro n c k hk
  cases c <;> cases hk
  exact List.nodup_singleton _

/-! ## Merging -/

section

variable (rules : List Rule) (n : Node)

theorem collect_eq_foldl (c : Option Constraint) :
    collect rules n c =
      ((c.toList.flatMap Constraint.leaves).map (leafKeywords rules n)).foldl extend [] := by
  cases c with
  | none => rfl
  | some c => rw [Option.toList_some, List.flatMap_singleton, List.foldl_map, collect]

theorem nodup_keys_collect (c : Option Constraint) : (keys (collect rules n c)).Nodup := by
  rw [collect_eq_foldl]
  exact nodup_keys_foldl_extend _

theorem collect_all (cs : List Constraint) :
    collect rules n (some (.all cs)) =
      (cs.map fun c => collect rules n (some c)).foldl extend [] := by
  induction cs using List.reverseRecOn with
  | nil => rfl
  | append_singleton cs c ih =>
    have hleaves : (Constraint.all (cs ++ [c])).leaves = (Constraint.all cs).leaves ++ c.leaves := by
      rw [Constraint.leaves_all, Constraint.leaves_all, List.flatMap_append, List.flatMap_singleton]
    have hall := collect_eq_foldl rules n (some (.all cs))
    have hc := collect_eq_foldl rules n (some c)
    rw [Option.toList_some, List.flatMap_singleton] at hall hc
    rw [collect_eq_foldl, Option.toList_some, List.flatMap_singleton, hleaves, List.map_append,
      List.foldl_append, ← hall, foldl_extend, ← hc, List.map_append, List.foldl_append, ← ih]
    rfl

/-- **Constraints are merged.** The keywords for a conjunction are the merge of those for its
members, so constraints with the same leaves have the same keywords. What is merged are the first
matches of the leaves. Constraints that are put on a node one by one, or joined in any way, are worth
as much as their conjunction. -/
theorem constraints_are_merged :
    (∀ cs k, collect rules n (some (.all cs)) = k ↔
      Merges (cs.map fun c => collect rules n (some c)) k) ∧
    (∀ c d : Constraint, c.leaves = d.leaves → collect rules n (some c) = collect rules n (some d)) ∧
    ((∀ r ∈ rules, r.GivesMaps) → ∀ c : Constraint, ∃ ks,
      List.Forall₂ (fun leaf k => FirstMatch n leaf rules k) c.leaves ks ∧
        Merges ks (collect rules n (some c))) ∧
    (∀ (m : Node) (cs : List Constraint),
      collect rules n (cs.foldl Node.withConstraint m).attributes.constraint =
        collect rules n (some (.all (m.attributes.constraint.toList ++ cs)))) ∧
    ∀ cs c, Constraint.Joins cs c → collect rules n (some c) = collect rules n (some (.all cs)) := by
  have hsame : ∀ c d : Option Constraint,
      c.toList.flatMap Constraint.leaves = d.toList.flatMap Constraint.leaves →
        collect rules n c = collect rules n d := by
    intro c d h
    rw [collect_eq_foldl, collect_eq_foldl, h]
  refine ⟨fun cs k => ?_, fun c d h => hsame _ _ (by simp [h]), fun hrules c => ?_, fun m cs => ?_,
    fun cs c h => ?_⟩
  · have hmerges : Merges (cs.map fun c => collect rules n (some c))
        (collect rules n (some (.all cs))) := by
      rw [collect_all]
      exact merges_foldl (List.forall_mem_map.2 fun c _ => nodup_keys_collect rules n _)
    exact ⟨fun h => h ▸ hmerges, fun h => hmerges.eq h⟩
  · refine ⟨c.leaves.map (leafKeywords rules n), ?_, ?_⟩
    · rw [List.forall₂_map_right_iff, List.forall₂_same]
      exact fun leaf _ => firstMatch_iff.2 rfl
    · rw [collect_eq_foldl, Option.toList_some, List.flatMap_singleton]
      exact merges_foldl (List.forall_mem_map.2 fun leaf _ => nodup_leafKeywords hrules n leaf)
  · refine hsame _ _ ?_
    have hattached := m.leaves_foldl_withConstraint cs
    rw [Node.leaves, Node.leaves] at hattached
    rw [hattached, Option.toList_some, List.flatMap_singleton, Constraint.leaves_all,
      List.flatMap_append]
  · refine hsame _ _ ?_
    rw [Option.toList_some, Option.toList_some, List.flatMap_singleton, List.flatMap_singleton,
      h.leaves_eq, Constraint.leaves_all]

end

/-- A conjunction of one length, a conjunction with another one inside, and a shorter length. -/
def codeConstraints : List Constraint :=
  [.all [.length (some 2) (some 10)], .all [.email, .all [.oneOf [.string "a@b"]]],
    .length none (some 5)]

/-- The keywords of a text with these constraints that may be missing. -/
def codeKeywords : Keywords :=
  [("maxLength", .number (.int 5)), ("minLength", .number (.int 2)), ("format", .string "email"),
    ("enum", .array [.string "a@b", .string "", .null])]

/-- However the constraints are joined, the second length wins in the place of the first. -/
theorem codeConstraints_merged :
    let n := (Node.ofKind .string).optional
    let collected := collect Profile.draft4StringRules n
    collected (some (.all codeConstraints)) = codeKeywords ∧
      collected (codeConstraints.foldl Node.withConstraint n).attributes.constraint = codeKeywords ∧
      collected (some ((Constraint.all [.length (some 2) (some 10)]).and
        (Constraint.and (.all [.email, .all [.oneOf [.string "a@b"]]]) (.length none (some 5))))) =
          codeKeywords ∧
      collected (some (.all [.length (some 2) (some 10), .email, .oneOf [.string "a@b"],
        .length none (some 5)])) = codeKeywords ∧
      ∃ ks, ks.length = 4 ∧ Merges ks codeKeywords := by
  intro n collected
  have hrules : ∀ r ∈ Profile.draft4StringRules, r.GivesMaps := by
    simp only [Profile.draft4StringRules, List.forall_mem_cons]
    exact ⟨givesMaps_length (by decide), givesMaps_textForm, givesMaps_nullableChoices _, by simp⟩
  obtain ⟨-, hleaves, hmatches, hattached, hjoined⟩ :=
    constraints_are_merged Profile.draft4StringRules n
  have hall : collected (some (.all codeConstraints)) = codeKeywords := by decide
  obtain ⟨ks, hks, hmerges⟩ := hmatches hrules (.all codeConstraints)
  refine ⟨hall, (hattached n codeConstraints).trans hall, ?_, ?_, ks, hks.length_eq.symm, ?_⟩
  · rw [← hall]
    exact hjoined codeConstraints _ (.and (.single _) (.and (.single _) (.single _)))
  · rw [← hall]
    exact hleaves _ _ rfl
  · rw [← hall]
    exact hmerges

end Rule

end SchemaTree
