import SchemaTree.Proofs.LeafKeywords
import SchemaTree.Proofs.Matching
import Mathlib.Algebra.GroupWithZero.Nat

/-!
# Decimals as texts

The pattern of decimals is read token by token. It spells an optional sign, digits, and an optional
point with digits behind it, between the two ends of the text. So it accepts decimals and nothing
else, and the number of places is the number that is written in its braces.

* `Pattern.number?_toDigits`, `Pattern.bounds_toDigits`: a number in braces is read back;
* `Pattern.decimalExpr`, **`Pattern.parse?_decimalPattern`**: what the pattern spells;
* `IsDecimal`, **`Pattern.accepts_decimalPattern_iff`**: what it accepts;
* **`Profile.decimal_pattern_accepts_decimals`**.
-/

namespace SchemaTree

open OrderedMap

namespace Pattern

/-! ## Reading numbers -/

theorem isDigit_iff {c : Char} : c.isDigit = true ↔ '0' ≤ c ∧ c ≤ '9' := by
  simp [Char.isDigit, Char.le_def]

theorem ne_of_isDigit {c d : Char} (hc : c.isDigit = true) (hd : d.isDigit = false) : c ≠ d := by
  rintro rfl
  rw [hc] at hd
  cases hd

theorem isDigit_of_mem_toDigits {n : Nat} {c : Char} (hc : c ∈ Nat.toDigits 10 n) :
    c.isDigit = true :=
  Nat.isDigit_of_mem_toDigits (by decide) (by decide) hc

theorem isBlank_of_isDigit {c : Char} (hc : c.isDigit = true) : isBlank c = false := by
  have hall : ∀ k < 10, isBlank (Char.ofNat (48 + k)) = false := by decide
  have hlower : 48 ≤ c.toNat := (Char.isDigit_iff_toNat.1 hc).1
  have hupper : c.toNat ≤ 57 := (Char.isDigit_iff_toNat.1 hc).2
  have hlt : c.toNat - 48 < 10 := by omega
  have hchar : Char.ofNat (48 + (c.toNat - 48)) = c := by
    rw [Nat.add_sub_cancel' hlower, Char.ofNat_toNat]
  rw [← hchar]
  exact hall _ hlt

theorem digitValue?_of_isDigit {c : Char} (hc : c.isDigit = true) :
    digitValue? 10 c = some (c.toNat - 48) := by
  have hupper : c.toNat ≤ 57 := (Char.isDigit_iff_toNat.1 hc).2
  have hlt : c.toNat - 48 < 10 := by omega
  simp [digitValue?, isDigit_iff.1 hc, hlt]

theorem foldlM_digitValue? {ds : List Char} (hds : ∀ c ∈ ds, c.isDigit = true) (n : Nat) :
    ds.foldlM (fun n d => (digitValue? 10 d).map (10 * n + ·)) n =
      some (Nat.ofDigitChars 10 ds n) := by
  induction ds generalizing n with
  | nil => rfl
  | cons c ds ih =>
    obtain ⟨hc, hds⟩ := List.forall_mem_cons.1 hds
    rw [List.foldlM_cons, digitValue?_of_isDigit hc, Nat.ofDigitChars_cons]
    exact ih hds _

theorem number?_toDigits {n : Nat} (hn : n < 2 ^ 32) : number? 10 (Nat.toDigits 10 n) = some n := by
  have hne : (Nat.toDigits 10 n).isEmpty = false := by
    rw [List.isEmpty_eq_false_iff]
    exact Nat.toDigits_ne_nil
  unfold number?
  rw [hne, foldlM_digitValue? fun c => isDigit_of_mem_toDigits, Nat.ofDigitChars_ten_toDigits]
  exact if_pos hn

section

variable (cs : List Char)

theorem run_append {p : Char → Bool} {ds : List Char} (hds : ∀ c ∈ ds, p c = true) {c : Char}
    (hc : p c = false) {bound : Nat} (hbound : ds.length < bound) :
    run false p bound (ds ++ c :: cs) = (ds, c :: cs) := by
  induction ds generalizing bound with
  | nil =>
    obtain ⟨bound, rfl⟩ := Nat.exists_eq_succ_of_ne_zero (Nat.ne_of_gt hbound)
    simp [run, hc]
  | cons d ds ih =>
    obtain ⟨bound, rfl⟩ := Nat.exists_eq_succ_of_ne_zero (Nat.ne_of_gt (Nat.zero_lt_of_lt hbound))
    obtain ⟨hd, hds⟩ := List.forall_mem_cons.1 hds
    have hrest : run false p bound (skip false (ds ++ c :: cs)) = (ds, c :: cs) :=
      ih hds (Nat.lt_of_succ_lt_succ hbound)
    rw [List.cons_append, run, if_pos hd, hrest]

theorem takeRun_eq (p : Char → Bool) (r : List Char) :
    takeRun p { rest := r } =
      some ((run false p r.length r).1, { rest := (run false p r.length r).2 }) := rfl

theorem decimal_eq {r ds rest blanks after : List Char}
    (hdigits : run false (fun c => '0' ≤ c ∧ c ≤ '9') (r.dropWhile isBlank).length
      (r.dropWhile isBlank) = (ds, rest))
    (hblanks : run false isBlank rest.length rest = (blanks, after)) :
    decimal { rest := r } = (number? 10 ds).map fun n => (n, { rest := after }) := by
  have h : decimal { rest := r } =
      (takeRun (fun c => '0' ≤ c ∧ c ≤ '9') { rest := r.dropWhile isBlank }).bind fun p =>
        (takeRun isBlank p.2).bind fun q => (number? 10 p.1).bind fun n => some (n, q.2) := rfl
  rw [h, takeRun_eq, hdigits, Option.bind_some, takeRun_eq, hblanks, Option.bind_some,
    Option.map_eq_bind]
  rfl

theorem decimal_toDigits {n : Nat} (hn : n < 2 ^ 32) :
    decimal { rest := Nat.toDigits 10 n ++ '\x7d' :: cs } =
      some (n, { rest := '\x7d' :: cs }) := by
  have hdrop : (Nat.toDigits 10 n ++ '\x7d' :: cs).dropWhile isBlank =
      Nat.toDigits 10 n ++ '\x7d' :: cs := by
    obtain ⟨d, ds, hds⟩ := List.exists_cons_of_ne_nil (Nat.toDigits_ne_nil (b := 10) (n := n))
    have hd : isBlank d = false :=
      isBlank_of_isDigit (isDigit_of_mem_toDigits (hds ▸ List.mem_cons_self))
    rw [hds, List.cons_append, List.dropWhile_cons_of_neg (by simp [hd])]
  have hlength : (Nat.toDigits 10 n).length < (Nat.toDigits 10 n ++ '\x7d' :: cs).length := by simp
  have hdigits := run_append (p := fun c => '0' ≤ c ∧ c ≤ '9') (c := '\x7d') cs
    (fun c hc => decide_eq_true (isDigit_iff.1 (isDigit_of_mem_toDigits hc))) (by decide) hlength
  rw [← hdrop] at hdigits
  rw [decimal_eq hdigits rfl, number?_toDigits hn]
  rfl

/-- What is read after the comma if the bounds do not end there. -/
def upperBound : Parser (Nat × Option Nat) := do
  let max ← decimal
  expect '\x7d'
  skipSpace
  if 0 ≤ max then return (0, some max) else failure

theorem bounds_of_ne {d : Char} (hd : d ≠ '\x7d') (r : List Char) :
    bounds { rest := '0' :: ',' :: d :: r } = upperBound { rest := d :: r } := by
  have hskip : skipSpace { rest := '0' :: ',' :: d :: r } =
    some ((), { rest := '0' :: ',' :: d :: r }) := rfl
  have hzero : decimal { rest := '0' :: ',' :: d :: r } = some (0, { rest := ',' :: d :: r }) := rfl
  have hadvance : advanceTo (d :: r) { rest := ',' :: d :: r } = some ((), { rest := d :: r }) :=
    rfl
  simp only [bounds, bind, StateT.bind, get, getThe, MonadStateOf.get, StateT.get, pure, hskip,
    hzero, hadvance, Option.bind_some]
  -- both readers are still to be run on what is behind the comma
  refine congrFun ?_ _
  split
  · rename_i h
    exact absurd (List.head_eq_of_cons_eq h) hd
  · rfl

/-- **Bounds from zero to a number are read as such.** -/
theorem bounds_toDigits {n : Nat} (hn : n < 2 ^ 32) :
    bounds { rest := '0' :: ',' :: (Nat.toDigits 10 n ++ '\x7d' :: cs) } =
      some ((0, some n), { rest := cs }) := by
  obtain ⟨d, ds, hds⟩ := List.exists_cons_of_ne_nil (Nat.toDigits_ne_nil (b := 10) (n := n))
  have hd : d ≠ '\x7d' :=
    ne_of_isDigit (isDigit_of_mem_toDigits (hds ▸ List.mem_cons_self)) (by decide)
  have hdecimal := decimal_toDigits cs hn
  have hupper (r : List Char) : upperBound { rest := r } =
      (decimal { rest := r }).bind fun (max, s) => (expect '\x7d' s).bind fun (_, s) =>
        some ((0, some max), { s with rest := skip s.verbose s.rest }) := rfl
  rw [hds, List.cons_append] at hdecimal ⊢
  rw [bounds_of_ne hd, hupper, hdecimal]
  rfl

end

/-! ## Reading the pattern -/

/-- A sign. -/
def signExpr : Expr := .bracketed false (.union [.literal ⟨'-', false⟩, .literal ⟨'+', false⟩])

/-- A digit. -/
def digitExpr : Expr := .bracketed false (.range ⟨'0', false⟩ ⟨'9', false⟩)

/-- A point. -/
def pointExpr : Expr := .literal ⟨'.', false⟩

/-- A point and digits, at most `max` if there is a bound. -/
def fractionExpr (max : Option Nat) : Expr :=
  .group .capture (.concat [pointExpr, .repetition digitExpr 0 max true])

/-- A decimal with at most `max` places, and nothing around it. -/
def decimalExpr (max : Option Nat) : Expr :=
  .concat [.anchor .lineStart, .repetition signExpr 0 (some 1) true,
    .repetition digitExpr 1 none true, .repetition (fractionExpr max) 0 (some 1) true,
    .anchor .lineEnd]

section

variable (fuel : Nat) (items : List Expr) (cs : List Char)

theorem branches_sign :
    branches (fuel + 5) [] items
        { rest := '^' :: '[' :: '-' :: '+' :: ']' :: '?' :: '[' :: cs } =
      branches (fuel + 2) [] (.repetition signExpr 0 (some 1) true :: .anchor .lineStart :: items)
        { rest := '[' :: cs } := rfl

theorem branches_digits :
    branches (fuel + 3) [] items { rest := '[' :: '0' :: '-' :: '9' :: ']' :: '+' :: '(' :: cs } =
      branches (fuel + 1) [] (.repetition digitExpr 1 none true :: items) { rest := '(' :: cs } :=
  rfl

theorem branches_group {inner : Expr} {rest : List Char}
    (h : branches fuel [] [] { rest := '\\' :: cs } = some (inner, { rest := ')' :: rest })) :
    branches (fuel + 1) [] items { rest := '(' :: '\\' :: cs } =
      branches fuel [] (.group .capture inner :: items) { rest } := by
  have hgroup : branches (fuel + 1) [] items { rest := '(' :: '\\' :: cs } =
      (branches fuel [] [] { rest := '\\' :: cs }).bind fun (inner, s) =>
        (expect ')' s).bind fun (_, s) =>
          branches fuel [] (.group .capture inner :: items) { s with verbose := false } := rfl
  rw [hgroup, h]
  rfl

theorem branches_point :
    branches (fuel + 4) [] [] { rest := '\\' :: '.' :: '[' :: '0' :: '-' :: '9' :: ']' :: cs } =
      branches (fuel + 2) [] [digitExpr, pointExpr] { rest := cs } := rfl

theorem branches_end (max : Option Nat) :
    branches (fuel + 3) [] (fractionExpr max :: items) { rest := ['?', '$'] } =
      some (.ofItems (.anchor .lineEnd :: .repetition (fractionExpr max) 0 (some 1) true :: items),
        { rest := [] }) := rfl

/-- The token for the number of places is read as a repetition of digits, which ends its group. -/
def SpellsPlaces (places : List Char) (max : Option Nat) : Prop :=
  ∀ (fuel : Nat) (items : List Expr) (cs : List Char),
    branches (fuel + 2) [] (digitExpr :: items) { rest := places ++ ')' :: cs } =
      some (.ofItems (.repetition digitExpr 0 max true :: items), { rest := ')' :: cs })

theorem spellsPlaces_any : SpellsPlaces ['*'] none := fun _ _ _ => rfl

theorem spellsPlaces_toDigits {n : Nat} (hn : n < 2 ^ 32) :
    SpellsPlaces ('\x7b' :: '0' :: ',' :: (Nat.toDigits 10 n ++ ['\x7d'])) (some n) := by
  intro fuel items cs
  have hbounds (r : List Char) :
      branches (fuel + 2) [] (digitExpr :: items) { rest := '\x7b' :: r } =
        (bounds { rest := r }).bind fun (b, s) => (greed s).bind fun (g, s) =>
          branches (fuel + 1) [] (.repetition digitExpr b.1 b.2 g :: items) s := rfl
  rw [List.cons_append, List.cons_append, List.cons_append, List.append_assoc, hbounds,
    List.singleton_append, bounds_toDigits _ hn]
  rfl

/-- **A pattern of decimals spells a decimal**, with the number of places that its token spells. -/
theorem parse?_of_spellsPlaces {places : List Char} {max : Option Nat}
    (h : SpellsPlaces places max) {s : String}
    (hs : s.toList = "^[-+]?[0-9]+(\\.[0-9]".toList ++ (places ++ [')', '?', '$'])) :
    parse? s = some (decimalExpr max) := by
  have htext : s.toList = '^' :: '[' :: '-' :: '+' :: ']' :: '?' :: '[' :: '0' :: '-' :: '9' ::
      ']' :: '+' :: '(' :: '\\' :: '.' :: '[' :: '0' :: '-' :: '9' :: ']' ::
      (places ++ [')', '?', '$']) := hs
  obtain ⟨fuel, hfuel⟩ : ∃ fuel, s.toList.length + 1 = fuel + 10 := by
    refine Nat.exists_eq_add_of_le' ?_
    rw [htext]
    simp only [List.length_cons]
    omega
  have hfraction := branches_group (fuel + 4)
    [.repetition digitExpr 1 none true, .repetition signExpr 0 (some 1) true, .anchor .lineStart] _
    ((branches_point fuel _).trans (h fuel [pointExpr] ['?', '$']))
  have hbranches : branches (fuel + 10) [] [] { rest := s.toList } =
      some (decimalExpr max, { rest := [] }) := by
    rw [htext]
    exact (branches_sign _ _ _).trans ((branches_digits _ _ _).trans
      (hfraction.trans (branches_end _ _ _)))
  rw [← hfuel] at hbranches
  simp only [parse?, StateT.run, hbranches]
  rfl

end

/-- **The pattern of decimals spells a decimal** with at most as many places as the scale says,
unless there is no scale or it is zero. -/
theorem parse?_decimalPattern {scale : Option Nat} (h : ∀ n, scale = some n → n < 2 ^ 32) :
    parse? (Step.decimalPattern scale) = some (decimalExpr (scale.filter (0 < ·))) := by
  rcases scale with _ | _ | n
  · exact parse?_of_spellsPlaces spellsPlaces_any rfl
  · exact parse?_of_spellsPlaces spellsPlaces_any rfl
  · refine parse?_of_spellsPlaces (spellsPlaces_toDigits (h _ rfl)) ?_
    have hdigits : (toString (n + 1)).toList = Nat.toDigits 10 (n + 1) := by
      rw [Nat.toString_eq_ofList_toDigits, String.toList_ofList]
    change ("^[-+]?[0-9]+(\\.[0-9]" ++ ("\x7b0," ++ toString (n + 1) ++ "\x7d") ++ ")?$").toList = _
    rw [String.toList_append, String.toList_append, String.toList_append, String.toList_append,
      hdigits, List.append_assoc]
    rfl

end Pattern

/-- The text is an optional sign, digits, and an optional point with digits behind it: any number of
them or, if there is a scale other than zero, at most as many as it says. -/
def IsDecimal (scale : Option Nat) (s : String) : Prop :=
  ∃ sign digits fraction : List Char, s.toList = sign ++ (digits ++ fraction) ∧
    (sign = [] ∨ sign = ['+'] ∨ sign = ['-']) ∧
    (digits ≠ [] ∧ ∀ c ∈ digits, c.isDigit = true) ∧
    (fraction = [] ∨ ∃ places, fraction = '.' :: places ∧ (∀ c ∈ places, c.isDigit = true) ∧
      ∀ n, scale = some n → 0 < n → places.length ≤ n)

theorem IsDecimal.mono {scale scale' : Option Nat}
    (h : ∀ n, scale' = some n → 0 < n → ∃ m, scale = some m ∧ 0 < m ∧ m ≤ n) {s : String}
    (hs : IsDecimal scale s) : IsDecimal scale' s := by
  obtain ⟨sign, digits, fraction, htext, hsign, hdigits, hfraction⟩ := hs
  refine ⟨sign, digits, fraction, htext, hsign, hdigits, hfraction.imp_right ?_⟩
  rintro ⟨places, rfl, hplaces, hbound⟩
  refine ⟨places, rfl, hplaces, fun n hn hpos => ?_⟩
  obtain ⟨m, hm, hmpos, hle⟩ := h n hn hpos
  exact Nat.le_trans (hbound m hm hmpos) hle

namespace Pattern

/-! ## Accepted texts -/

open Pattern.Expr

theorem single_sign : Single (fun c => c = '+' ∨ c = '-') signExpr := by
  refine (single_bracketed _).congr fun c => ⟨?_, ?_⟩
  · rintro (_ | _ | ⟨hset, hc⟩)
    rcases List.mem_pair.1 hset with rfl | rfl
    · cases hc
      exact Or.inr rfl
    · cases hc
      exact Or.inl rfl
  · rintro (rfl | rfl)
    · exact .union (List.mem_pair.2 (Or.inr rfl)) (.literal ⟨'+', false⟩)
    · exact .union (List.mem_pair.2 (Or.inl rfl)) (.literal ⟨'-', false⟩)

theorem single_digit : Single (fun c => c.isDigit = true) digitExpr := by
  refine (single_bracketed _).congr fun c => ?_
  rw [isDigit_iff]
  constructor
  · rintro (_ | ⟨hfirst, hlast⟩)
    exact ⟨hfirst, hlast⟩
  · rintro ⟨hfirst, hlast⟩
    exact .range hfirst hlast

section

variable {before piece after : List Char}

theorem matches_sign : (repetition signExpr 0 (some 1) true).Matches before piece after ↔
    piece = [] ∨ piece = ['+'] ∨ piece = ['-'] := by
  rw [matches_optional, single_sign before piece after]
  refine or_congr_right ⟨?_, ?_⟩
  · rintro ⟨c, rfl, rfl | rfl⟩
    · exact Or.inl rfl
    · exact Or.inr rfl
  · rintro (rfl | rfl)
    · exact ⟨'+', rfl, Or.inl rfl⟩
    · exact ⟨'-', rfl, Or.inr rfl⟩

theorem matches_digits : (repetition digitExpr 1 none true).Matches before piece after ↔
    piece ≠ [] ∧ ∀ c ∈ piece, c.isDigit = true := by
  rw [single_digit.matches_repetition, Nat.one_le_iff_ne_zero, Ne, List.length_eq_zero_iff]
  simp

theorem matches_fraction {max : Option Nat} :
    (repetition (fractionExpr max) 0 (some 1) true).Matches before piece after ↔
      piece = [] ∨ ∃ places, piece = '.' :: places ∧ (∀ c ∈ places, c.isDigit = true) ∧
        ∀ n, max = some n → places.length ≤ n := by
  rw [matches_optional, fractionExpr, matches_group, matches_concat_cons]
  simp only [matches_concat_cons, matches_concat_nil]
  refine or_congr_right ⟨?_, ?_⟩
  · rintro ⟨first, rest, rfl, hpoint, places, _, rfl, hplaces, rfl⟩
    obtain ⟨c, rfl, rfl⟩ := (single_literal _ _ _ _).1 hpoint
    obtain ⟨-, hbound, hdigits⟩ := single_digit.matches_repetition.1 hplaces
    exact ⟨places, by simp, hdigits, hbound⟩
  · rintro ⟨places, rfl, hdigits, hbound⟩
    refine ⟨['.'], places, rfl, (single_literal _ _ _ _).2 ⟨_, rfl, rfl⟩, places, [],
      (List.append_nil _).symm, single_digit.matches_repetition.2 ⟨Nat.zero_le _, hbound, hdigits⟩,
      rfl⟩

end

theorem accepts_decimalExpr_iff {max : Option Nat} {s : String} :
    (decimalExpr max).Accepts s ↔ ∃ sign digits fraction : List Char,
      s.toList = sign ++ (digits ++ fraction) ∧ (sign = [] ∨ sign = ['+'] ∨ sign = ['-']) ∧
      (digits ≠ [] ∧ ∀ c ∈ digits, c.isDigit = true) ∧
      (fraction = [] ∨ ∃ places, fraction = '.' :: places ∧ (∀ c ∈ places, c.isDigit = true) ∧
        ∀ n, max = some n → places.length ≤ n) := by
  simp only [Expr.Accepts, decimalExpr, matches_concat_cons, matches_concat_nil, matches_lineStart,
    matches_lineEnd, matches_sign, matches_digits, matches_fraction]
  constructor
  · rintro ⟨_, _, _, htext, _, _, rfl, ⟨rfl, rfl⟩, sign, _, rfl, hsign, digits, _, rfl, hdigits,
      fraction, _, rfl, hfraction, _, _, rfl, ⟨hafter, rfl⟩, rfl⟩
    obtain rfl : _ = [] := hafter
    exact ⟨sign, digits, fraction, by simpa using htext, hsign, hdigits, hfraction⟩
  · rintro ⟨sign, digits, fraction, htext, hsign, hdigits, hfraction⟩
    have hpiece : s.toList = [] ++ (sign ++ (digits ++ fraction)) ++ [] := by simpa using htext
    exact ⟨_, _, _, hpiece, [], _, rfl, ⟨rfl, rfl⟩, sign, _, rfl, hsign, digits, _, rfl, hdigits,
      fraction, [], (List.append_nil _).symm, hfraction, [], [], rfl, ⟨rfl, rfl⟩, rfl⟩

/-- **The pattern of decimals accepts decimals and nothing else.** A scale is below `2 ^ 32`, as any
number in braces is. -/
theorem accepts_decimalPattern_iff {scale : Option Nat} (h : ∀ n, scale = some n → n < 2 ^ 32)
    (s : String) : Accepts (Step.decimalPattern scale) s ↔ IsDecimal scale s := by
  have hbound (places : List Char) :
      (∀ n, scale.filter (0 < ·) = some n → places.length ≤ n) ↔
        ∀ n, scale = some n → 0 < n → places.length ≤ n := by
    simp [Option.filter_eq_some_iff]
  have haccepts : Accepts (Step.decimalPattern scale) s ↔
      (decimalExpr (scale.filter (0 < ·))).Accepts s := by
    simp [Accepts, parse?_decimalPattern h]
  rw [haccepts, accepts_decimalExpr_iff, IsDecimal]
  simp only [hbound]

end Pattern

/-! ## Emitted patterns -/

/-- The number of places of a kind where a node does not say it. -/
def Kind.defaultScale : Kind → Option Nat
  | money => some 2
  | _ => none

namespace Profile

open Pattern

theorem resolve_decimal {n : Node} (hn : n.kind.isDecimal = true)
    (hpattern : ∀ c ∈ n.leaves, c.pattern? = none) (extracts : Bool) (dialect : Option String)
    (s : Progress) :
    ∃ k : Keywords, (draft4DecimalString.generator extracts dialect).resolve n s =
        (.ok (some k), s) ∧
      get? k "pattern" =
        some (.string (Step.decimalPattern (n.attributes.scale.or n.kind.defaultScale))) := by
  have hleaf : n.kind.isLeaf = true := by
    cases hκ : n.kind <;> simp_all [Kind.isDecimal, Kind.isLeaf, Kind.isObject, Kind.isArray]
  have hconverts : draft4DecimalString.converts n.kind = true := by
    rw [converts_eq]
    rfl
  have hlast : n.lastOf? Constraint.pattern? = none :=
    List.findSome?_eq_none_iff.2 fun c hc => hpattern c (List.mem_reverse.1 hc)
  refine ⟨_, resolve_of_isLeaf hleaf hconverts extracts dialect s, ?_⟩
  rw [get?_ownKeywords_of_isLeaf (by decide) hleaf hconverts, Node.leafKeyword?]
  cases hκ : n.kind with
  | decimal | money =>
    simp [Node.textKeyword?, hlast, Node.decimalPattern?, hκ, Kind.defaultScale]
  | _ =>
    rw [hκ] at hn
    cases hn

/-- **The pattern of decimals accepts exactly the intended numbers.** For a scale `n` other than
zero it accepts an optional sign, digits, and an optional point with at most `n` digits behind it;
without a scale or with zero there may be any number of them. A decimal or an amount of money that
asks for no pattern gets the one for its own scale or else for that of its kind, which is two for
money and none for decimals. So more is accepted with a greater scale, and everything without one. -/
theorem decimal_pattern_accepts_decimals :
    (∀ scale : Option Nat, (∀ n, scale = some n → n < 2 ^ 32) →
      ∀ s, Accepts (Step.decimalPattern scale) s ↔ IsDecimal scale s) ∧
    (∀ n : Node, n.kind.isDecimal = true → (∀ c ∈ n.leaves, c.pattern? = none) →
      ∀ (extracts : Bool) (dialect : Option String) (s : Progress), ∃ k : Keywords,
        (draft4DecimalString.generator extracts dialect).resolve n s = (.ok (some k), s) ∧
        get? k "pattern" =
          some (.string (Step.decimalPattern (n.attributes.scale.or n.kind.defaultScale)))) ∧
    (∀ m n : Nat, 0 < m → m ≤ n → n < 2 ^ 32 → ∀ s,
      Accepts (Step.decimalPattern (some m)) s → Accepts (Step.decimalPattern (some n)) s) ∧
    ∀ n < 2 ^ 32, ∀ s,
      Accepts (Step.decimalPattern (some n)) s → Accepts (Step.decimalPattern none) s := by
  have hsome {n : Nat} (hn : n < 2 ^ 32) : ∀ k, some n = some k → k < 2 ^ 32 := by
    rintro _ ⟨⟩
    exact hn
  have hnone : ∀ k : Nat, none = some k → k < 2 ^ 32 := by
    rintro _ ⟨⟩
  refine ⟨fun scale h s => accepts_decimalPattern_iff h s,
    fun n hn hpattern extracts dialect s => resolve_decimal hn hpattern extracts dialect s,
    fun m n hpos hle hn s hs => ?_, fun n hn s hs => ?_⟩
  · rw [accepts_decimalPattern_iff (hsome (Nat.lt_of_le_of_lt hle hn))] at hs
    refine (accepts_decimalPattern_iff (hsome hn) s).2 (hs.mono ?_)
    rintro _ ⟨⟩ -
    exact ⟨m, rfl, hpos, hle⟩
  · rw [accepts_decimalPattern_iff (hsome hn)] at hs
    refine (accepts_decimalPattern_iff hnone s).2 (hs.mono ?_)
    rintro _ ⟨⟩

/-- A price that is an address as well. -/
def price : Node := (Node.ofKind .money).withConstraint .email

/-- A price has two places, with a sign in front if need be, and a point alone is no price. -/
theorem price_pattern :
    ∃ k : Keywords,
      (draft4DecimalString.generator true none).resolve price {} = (.ok (some k), {}) ∧
      get? k "pattern" = some (.string "^[-+]?[0-9]+(\\.[0-9]\x7b0,2\x7d)?$") ∧
      Accepts "^[-+]?[0-9]+(\\.[0-9]\x7b0,2\x7d)?$" "-12.50" ∧
      Accepts (Step.decimalPattern (some 4294967295)) "-12.50" ∧
      ¬ Accepts "^[-+]?[0-9]+(\\.[0-9]\x7b0,2\x7d)?$" "." := by
  obtain ⟨haccepts, hemits, hgrows, -⟩ := decimal_pattern_accepts_decimals
  have htwo : ∀ s, Accepts (Step.decimalPattern (some 2)) s ↔ IsDecimal (some 2) s :=
    haccepts (some 2) fun n hn => by cases hn; decide
  obtain ⟨k, hresolve, hpattern⟩ := hemits price rfl (by decide) true none {}
  have hprice : Accepts (Step.decimalPattern (some 2)) "-12.50" := by
    refine (htwo _).2 ⟨['-'], ['1', '2'], ['.', '5', '0'], rfl, Or.inr (Or.inr rfl), by simp,
      Or.inr ⟨['5', '0'], rfl, by simp, ?_⟩⟩
    rintro _ ⟨⟩ -
    decide
  refine ⟨k, hresolve, hpattern, hprice, hgrows 2 _ (by decide) (by decide) (by decide) _ hprice,
    fun hpoint => ?_⟩
  obtain ⟨sign, digits, fraction, htext, -, ⟨hne, hdigits⟩, -⟩ := (htwo ".").1 hpoint
  obtain ⟨d, hd⟩ := List.exists_mem_of_ne_nil digits hne
  have hmem : d ∈ ".".toList := htext ▸ List.mem_append_right _ (List.mem_append_left _ hd)
  have hdigit := hdigits d hd
  rw [List.mem_singleton.1 hmem] at hdigit
  cases hdigit

end Profile

end SchemaTree
