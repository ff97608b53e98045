import SchemaTree.Json.Basic
import Mathlib.Data.List.Basic
import Mathlib.Tactic.SplitIfs

/-!
# Pointers to definitions

A name is escaped by two replacements, first of tildes by `~0` and then of slashes by `~1`. A
pointer is read by two others in the opposite order: first `~1` by a slash, then `~0` by a tilde.

* `Keywords.replaceChar`, `toList_escapePointer`: escaping as two replacements;
* `slash_not_mem_escapePointer`, `head?_of_escapePointer`: what an escaped name looks like;
* `Keywords.unescapePointer`, **`unescapePointer_escapePointer`**;
* `Keywords.definitionName?`: the name that a pointer stands for, with
  `definitionName?_definitionPointer` and `definitionPointer_injective`.
-/

namespace SchemaTree

namespace Keywords

/-! ## Escaped names -/

/-- The characters `cs` with `text` in the place of every `c`. -/
def replaceChar (c : Char) (text cs : List Char) : List Char :=
  cs.flatMap fun x => if x = c then text else [x]

/-- A name is escaped by two replacements, first that of tildes and then that of slashes. -/
theorem toList_escapePointer (name : String) :
    (escapePointer name).toList =
      replaceChar '/' ['~', '1'] (replaceChar '~' ['~', '0'] name.toList) := by
  rw [escapePointer, String.toList_ofList, replaceChar, replaceChar, List.flatMap_assoc]
  refine List.flatMap_congr fun x _ => ?_
  unfold escapePointerChar
  by_cases htilde : x = '~'
  · simp [htilde]
  · simp [htilde]

theorem slash_not_mem_escapePointer (name : String) : '/' ∉ (escapePointer name).toList := by
  rw [toList_escapePointer]
  intro hmem
  obtain ⟨x, -, hx⟩ := List.mem_flatMap.1 hmem
  by_cases hslash : x = '/'
  · simp [hslash] at hx
  · simp [hslash, Ne.symm hslash] at hx

theorem head?_of_escape {d : Char} (hd : d ≠ '~') {rest before after : List Char}
    (h : '~' :: d :: rest = before ++ '~' :: after) :
    after.head? = some d ∨ ∃ before', rest = before' ++ '~' :: after := by
  rcases before with _ | ⟨b, _ | ⟨b', before⟩⟩
  · obtain ⟨-, rfl⟩ := List.cons.inj h
    exact Or.inl rfl
  · obtain ⟨-, h⟩ := List.cons.inj h
    exact absurd (List.cons.inj h).1 hd
  · obtain ⟨-, h⟩ := List.cons.inj h
    exact Or.inr ⟨before, (List.cons.inj h).2⟩

/-- Behind a tilde of an escaped name stands a digit that says what it is. -/
theorem head?_of_escapePointer {name : String} {before after : List Char}
    (h : (escapePointer name).toList = before ++ '~' :: after) :
    after.head? = some '0' ∨ after.head? = some '1' := by
  rw [escapePointer, String.toList_ofList] at h
  generalize name.toList = cs at h
  induction cs generalizing before with
  | nil => simp at h
  | cons x cs ih =>
    rw [List.flatMap_cons, escapePointerChar] at h
    -- The tilde is the first of the characters for `x`, or it stands further behind.
    split_ifs at h with htilde hslash
    · rcases head?_of_escape (by decide) h with hhead | ⟨before', hrest⟩
      · exact Or.inl hhead
      · exact ih hrest
    · rcases head?_of_escape (by decide) h with hhead | ⟨before', hrest⟩
      · exact Or.inr hhead
      · exact ih hrest
    · rcases before with _ | ⟨b, before⟩
      · exact absurd (List.cons.inj h).1 htilde
      · exact ih (List.cons.inj h).2

/-! ## Reading -/

/-- Replaces a tilde with the digit `d` behind it by `c`, from left to right. -/
def replaceEscape (d c : Char) : List Char → List Char
  | [] => []
  | [x] => [x]
  | x :: y :: cs =>
    if x = '~' ∧ y = d then c :: replaceEscape d c cs else x :: replaceEscape d c (y :: cs)

/-- The text that an escaped text stands for. -/
def unescapePointer (s : String) : String :=
  String.ofList (replaceEscape '0' '~' (replaceEscape '1' '/' s.toList))

/-- What the pointer to every definition begins with. -/
def pointerPrefix : String := "#/definitions/"

/-- The name that a pointer to a definition stands for. -/
def definitionName? (pointer : String) : Option String :=
  if pointerPrefix.toList <+: pointer.toList then
    some (unescapePointer (String.ofList (pointer.toList.drop pointerPrefix.toList.length)))
  else none

theorem replaceEscape_cons {x : Char} (h : x ≠ '~') (d c : Char) (cs : List Char) :
    replaceEscape d c (x :: cs) = x :: replaceEscape d c cs := by
  cases cs with
  | nil => rfl
  | cons y cs => rw [replaceEscape, if_neg fun hx => h hx.1]

theorem replaceEscape_escape (d c : Char) (cs : List Char) :
    replaceEscape d c ('~' :: d :: cs) = c :: replaceEscape d c cs := by
  rw [replaceEscape, if_pos ⟨rfl, rfl⟩]

theorem replaceEscape_other {d y : Char} (h : y ≠ d) (hy : y ≠ '~') (c : Char) (cs : List Char) :
    replaceEscape d c ('~' :: y :: cs) = '~' :: y :: replaceEscape d c cs := by
  rw [replaceEscape, if_neg fun hx => h hx.2, replaceEscape_cons hy]

/-- The first replacement brings the slashes back and leaves the tildes escaped. -/
theorem replaceEscape_slash (cs : List Char) :
    replaceEscape '1' '/' (cs.flatMap escapePointerChar) = replaceChar '~' ['~', '0'] cs := by
  unfold replaceChar
  induction cs with
  | nil => rfl
  | cons x cs ih =>
    rw [List.flatMap_cons, List.flatMap_cons, ← ih, escapePointerChar]
    by_cases htilde : x = '~'
    · rw [if_pos htilde, if_pos htilde]
      exact replaceEscape_other (by decide) (by decide) _ _
    · rw [if_neg htilde, if_neg htilde]
      by_cases hslash : x = '/'
      · rw [if_pos hslash, hslash]
        exact replaceEscape_escape _ _ _
      · rw [if_neg hslash]
        exact replaceEscape_cons htilde _ _ _

/-- The second replacement brings the tildes back. -/
theorem replaceEscape_tilde (cs : List Char) :
    replaceEscape '0' '~' (replaceChar '~' ['~', '0'] cs) = cs := by
  unfold replaceChar
  induction cs with
  | nil => rfl
  | cons x cs ih =>
    rw [List.flatMap_cons]
    by_cases htilde : x = '~'
    · rw [if_pos htilde, htilde]
      exact (replaceEscape_escape _ _ _).trans (congrArg _ ih)
    · rw [if_neg htilde]
      exact (replaceEscape_cons htilde _ _ _).trans (congrArg _ ih)

/-- **Reading an escaped name gives the name.** -/
theorem unescapePointer_escapePointer (name : String) :
    unescapePointer (escapePointer name) = name := by
  rw [unescapePointer, escapePointer, String.toList_ofList, replaceEscape_slash, replaceEscape_tilde,
    String.ofList_toList]

theorem definitionName?_definitionPointer (name : String) :
    definitionName? (definitionPointer name) = some name := by
  have hlist : (definitionPointer name).toList =
      pointerPrefix.toList ++ (escapePointer name).toList := String.toList_append
  rw [definitionName?, hlist, if_pos (List.prefix_append _ _), List.drop_left,
    String.ofList_toList, unescapePointer_escapePointer]

theorem definitionPointer_injective {name name' : String}
    (h : definitionPointer name = definitionPointer name') : name = name' := by
  have hname := definitionName?_definitionPointer name
  rw [h, definitionName?_definitionPointer] at hname
  exact (Option.some.inj hname).symm

end Keywords

end SchemaTree
