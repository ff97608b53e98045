import SchemaTree.Pattern.Parser
import Mathlib.Data.List.Basic
import Mathlib.Logic.Basic

/-!
# Matching

An expression matches a piece of a text between what stands before it and what stands after it, and
a pattern accepts the texts in which it matches a piece. Defined for the constructs that patterns of
decimals are made of: characters, ranges and sets of them, groups, sequences, repetitions, and the
anchors, which stand for the ends of the text. Which match is preferred makes no difference.

* `ClassSet.Has`, `Expr.Matches`, `Expr.Accepts`, `Accepts`;
* `Expr.matches_concat_cons`, `matches_optional`, and so on: what a match of a construct is made of;
* `Expr.Single`: expressions that match one character, with **`Single.matches_repetition`**.
-/

namespace SchemaTree

namespace Pattern

/-- The character is among those between brackets. -/
inductive ClassSet.Has : ClassSet → Char → Prop
  | literal (l : Literal) : Has (.literal l) l.char
  | range {first last : Literal} {c : Char} : first.char ≤ c → c ≤ last.char →
    Has (.range first last) c
  | union {sets : List ClassSet} {set : ClassSet} {c : Char} : set ∈ sets → Has set c →
    Has (.union sets) c

namespace Expr

/-- The expression matches a piece of a text, between what stands before and after the piece. -/
inductive Matches : Expr → (before piece after : List Char) → Prop
  | literal (l : Literal) (before after : List Char) : Matches (.literal l) before [l.char] after
  | lineStart (after : List Char) : Matches (.anchor .lineStart) [] [] after
  | lineEnd (before : List Char) : Matches (.anchor .lineEnd) before [] []
  | bracketed {set : ClassSet} {c : Char} (before after : List Char) : set.Has c →
    Matches (.bracketed false set) before [c] after
  | group {e : Expr} {before piece after : List Char} : Matches e before piece after →
    Matches (.group .capture e) before piece after
  | done (before after : List Char) : Matches (.concat []) before [] after
  | next {e : Expr} {es : List Expr} {before piece rest after : List Char} :
    Matches e before piece (rest ++ after) → Matches (.concat es) (before ++ piece) rest after →
    Matches (.concat (e :: es)) before (piece ++ rest) after
  | repetition {e : Expr} {min rounds : Nat} {max : Option Nat} {before piece after : List Char}
    (greedy : Bool) : min ≤ rounds → (∀ m, max = some m → rounds ≤ m) →
    Matches (.concat (List.replicate rounds e)) before piece after →
    Matches (.repetition e min max greedy) before piece after

/-- A piece of the text matches. -/
def Accepts (e : Expr) (s : String) : Prop :=
  ∃ before piece after, s.toList = before ++ piece ++ after ∧ e.Matches before piece after

/-! ## What a match is made of -/

section

variable {e : Expr} {es : List Expr} {before piece after : List Char}

theorem matches_lineStart :
    (anchor .lineStart).Matches before piece after ↔ before = [] ∧ piece = [] := by
  constructor
  · rintro ⟨⟩
    exact ⟨rfl, rfl⟩
  · rintro ⟨rfl, rfl⟩
    exact .lineStart after

theorem matches_lineEnd :
    (anchor .lineEnd).Matches before piece after ↔ after = [] ∧ piece = [] := by
  constructor
  · rintro ⟨⟩
    exact ⟨rfl, rfl⟩
  · rintro ⟨rfl, rfl⟩
    exact .lineEnd before

theorem matches_group :
    (group .capture e).Matches before piece after ↔ e.Matches before piece after := by
  constructor
  · rintro ⟨⟩
    assumption
  · exact .group

theorem matches_concat_nil : (concat []).Matches before piece after ↔ piece = [] := by
  constructor
  · rintro ⟨⟩
    rfl
  · rintro rfl
    exact .done before after

theorem matches_concat_cons :
    (concat (e :: es)).Matches before piece after ↔
      ∃ first rest, piece = first ++ rest ∧ e.Matches before first (rest ++ after) ∧
        (concat es).Matches (before ++ first) rest after := by
  constructor
  · rintro ⟨⟩
    exact ⟨_, _, rfl, by assumption, by assumption⟩
  · rintro ⟨first, rest, rfl, hfirst, hrest⟩
    exact .next hfirst hrest

theorem matches_repetition {min : Nat} {max : Option Nat} {greedy : Bool} :
    (repetition e min max greedy).Matches before piece after ↔
      ∃ rounds, min ≤ rounds ∧ (∀ m, max = some m → rounds ≤ m) ∧
        (concat (List.replicate rounds e)).Matches before piece after := by
  constructor
  · rintro ⟨⟩
    exact ⟨_, by assumption, by assumption, by assumption⟩
  · rintro ⟨rounds, hmin, hmax, h⟩
    exact .repetition greedy hmin hmax h

theorem matches_optional {greedy : Bool} :
    (repetition e 0 (some 1) greedy).Matches before piece after ↔
      piece = [] ∨ e.Matches before piece after := by
  rw [matches_repetition]
  constructor
  · rintro ⟨rounds, -, hmax, h⟩
    have hrounds : rounds = 0 ∨ rounds = 1 := by
      have hle := hmax 1 rfl
      omega
    rcases hrounds with rfl | rfl
    · exact Or.inl (matches_concat_nil.1 h)
    · obtain ⟨first, rest, rfl, hfirst, hrest⟩ := matches_concat_cons.1 h
      obtain rfl := matches_concat_nil.1 hrest
      rw [List.nil_append] at hfirst
      rw [List.append_nil]
      exact Or.inr hfirst
  · rintro (rfl | h)
    · exact ⟨0, Nat.le_refl 0, by simp, .done before after⟩
    · refine ⟨1, Nat.zero_le 1, by simp, ?_⟩
      rw [List.replicate_one, ← List.append_nil piece]
      exact .next h (.done _ after)

end

/-! ## Single characters -/

/-- The expression matches every single character that satisfies `P`, and nothing else. -/
def Single (P : Char → Prop) (e : Expr) : Prop :=
  ∀ before piece after, e.Matches before piece after ↔ ∃ c, piece = [c] ∧ P c

theorem single_literal (l : Literal) : Single (· = l.char) (literal l) := by
  intro before piece after
  constructor
  · rintro ⟨⟩
    exact ⟨_, rfl, rfl⟩
  · rintro ⟨c, rfl, rfl⟩
    exact .literal l before after

theorem single_bracketed (set : ClassSet) : Single set.Has (bracketed false set) := by
  intro before piece after
  constructor
  · rintro ⟨⟩
    exact ⟨_, rfl, by assumption⟩
  · rintro ⟨c, rfl, hc⟩
    exact .bracketed before after hc

section

variable {P : Char → Prop} {e : Expr}

theorem Single.congr {Q : Char → Prop} (h : Single P e) (hPQ : ∀ c, P c ↔ Q c) : Single Q e := by
  intro before piece after
  simp only [h before piece after, hPQ]

theorem Single.matches_replicate (h : Single P e) (rounds : Nat) {before piece after : List Char} :
    (concat (List.replicate rounds e)).Matches before piece after ↔
      piece.length = rounds ∧ ∀ c ∈ piece, P c := by
  induction rounds generalizing before piece with
  | zero =>
    rw [List.replicate_zero, matches_concat_nil, List.length_eq_zero_iff]
    constructor
    · rintro rfl
      exact ⟨rfl, List.forall_mem_nil _⟩
    · exact And.left
  | succ rounds ih =>
    rw [List.replicate_succ, matches_concat_cons]
    constructor
    · rintro ⟨first, rest, rfl, hfirst, hrest⟩
      obtain ⟨c, rfl, hc⟩ := (h _ _ _).1 hfirst
      obtain ⟨rfl, hP⟩ := ih.1 hrest
      exact ⟨rfl, List.forall_mem_cons.2 ⟨hc, hP⟩⟩
    · rintro ⟨hlength, hP⟩
      obtain ⟨c, rest, rfl⟩ := List.exists_cons_of_length_eq_add_one hlength
      obtain ⟨hc, hrest⟩ := List.forall_mem_cons.1 hP
      exact ⟨[c], rest, rfl, (h _ _ _).2 ⟨c, rfl, hc⟩, ih.2 ⟨Nat.succ.inj hlength, hrest⟩⟩

/-- **A repetition of single characters matches as many of them as its bounds allow.** -/
theorem Single.matches_repetition (h : Single P e) {min : Nat} {max : Option Nat} {greedy : Bool}
    {before piece after : List Char} :
    (repetition e min max greedy).Matches before piece after ↔
      min ≤ piece.length ∧ (∀ m, max = some m → piece.length ≤ m) ∧ ∀ c ∈ piece, P c := by
  rw [Expr.matches_repetition]
  simp only [h.matches_replicate]
  constructor
  · rintro ⟨_, hmin, hmax, rfl, hP⟩
    exact ⟨hmin, hmax, hP⟩
  · rintro ⟨hmin, hmax, hP⟩
    exact ⟨piece.length, hmin, hmax, rfl, hP⟩

end

end Expr

/-- The text spells an expression that accepts a text. -/
def Accepts (pattern s : String) : Prop := ∃ e, parse? pattern = some e ∧ e.Accepts s

end Pattern

end SchemaTree
