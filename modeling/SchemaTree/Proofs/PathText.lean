import SchemaTree.Path
import Mathlib.Tactic.SplitIfs

/-!
# Reading path texts

In a name without dots and opening brackets no segment can begin. So the text of a path is read from
its end: up to a dot it is a property, up to a bracket it can only be an item, and what is left in
front of them all is the name of the first property. If that name is empty, nothing tells that it is
there; empty names behind other segments have their dot.

* `Path.Ordinary`: paths that have such names and do not begin with an empty one;
* `Path.ofText?`: the path that a text says, with `readEnd_eq_some_iff`;
* **`ofText?_eq_some_iff`**: it reads the texts of ordinary paths, and nothing else;
* **`Path.text_determines_path`**.
-/

namespace SchemaTree

namespace Path

/-! ## Ordinary names -/

/-- No segment begins inside the word. -/
def IsWord (word : List Char) : Prop := '.' ∉ word ∧ '[' ∉ word

/-- No segment begins inside a name of the path. -/
def WordsOnly (p : Path) : Prop := ∀ name, .property name ∈ p → IsWord name.toList

/-- No segment begins inside a name of the path, and its first segment is not the empty name. -/
structure Ordinary (p : Path) : Prop where
  words : p.WordsOnly
  head : p.head? ≠ some (.property "")

/-- A dot in a name looks like the dot between two names. -/
example : text [.property "a.b"] = text [.property "a", .property "b"] := rfl

/-- An empty name in front is not seen. -/
example : text [.property "", .items] = text [.items] := rfl

theorem isWord_nil : IsWord [] := by simp [IsWord]

theorem isWord_cons_iff {c : Char} {word : List Char} :
    IsWord (c :: word) ↔ c ≠ '.' ∧ c ≠ '[' ∧ IsWord word := by
  grind [IsWord]

theorem wordsOnly_nil : WordsOnly [] := fun _ h => by cases h

theorem wordsOnly_property_iff {name : String} {p : Path} :
    WordsOnly (.property name :: p) ↔ IsWord name.toList ∧ p.WordsOnly := by
  simp [WordsOnly]

theorem wordsOnly_items_iff {p : Path} : WordsOnly (.items :: p) ↔ p.WordsOnly := by
  simp [WordsOnly]

/-! ## The reader -/

/-- What is read when a character comes in front of a word and the segments behind it. -/
def readChar (c : Char) (r : List Char × Path) : Option (List Char × Path) :=
  if c = '.' then some ([], .property (String.ofList r.1) :: r.2)
  else if c = '[' then if r.1 = [']'] then some ([], .items :: r.2) else none
  else some (c :: r.1, r.2)

/-- What the end of a text says: a word, and the segments behind it. -/
def readEnd : List Char → Option (List Char × Path)
  | [] => some ([], [])
  | c :: cs => (readEnd cs).bind (readChar c)

/-- The path of a text that is read to its beginning: a word there is the name of a property. -/
def readStart : List Char × Path → Option Path
  | ([], .property _ :: _) => none
  | ([], p) => some p
  | (c :: word, p) => some (.property (String.ofList (c :: word)) :: p)

/-- The path that a text says. -/
def ofText? (s : String) : Option Path := (readEnd s.toList).bind readStart

theorem readEnd_append {word : List Char} (hword : IsWord word) {cs : List Char} {p : Path}
    (h : readEnd cs = some ([], p)) : readEnd (word ++ cs) = some (word, p) := by
  induction word with
  | nil => exact h
  | cons c word ih =>
    obtain ⟨hdot, hbracket, hword⟩ := isWord_cons_iff.1 hword
    rw [List.cons_append, readEnd, ih hword, Option.bind_some, readChar, if_neg hdot,
      if_neg hbracket]

theorem readEnd_continuedText {p : Path} (hp : p.WordsOnly) :
    readEnd (continuedText p).toList = some ([], p) := by
  induction p with
  | nil => rfl
  | cons s p ih =>
    cases s with
    | property name =>
      obtain ⟨hname, hp⟩ := wordsOnly_property_iff.1 hp
      have htext : (continuedText (.property name :: p)).toList =
          '.' :: (name.toList ++ (continuedText p).toList) := by
        simp [continuedText, Segment.continuedText]
      rw [htext, readEnd, readEnd_append hname (ih hp), Option.bind_some, readChar, if_pos rfl,
        String.ofList_toList]
    | items =>
      have hrest := ih (wordsOnly_items_iff.1 hp)
      have htext : (continuedText (.items :: p)).toList =
          '[' :: ([']'] ++ (continuedText p).toList) := by
        simp [continuedText, Segment.continuedText]
      rw [htext, readEnd, readEnd_append (by simp [IsWord]) hrest]
      rfl

theorem toList_of_readChar {c : Char} {r r' : List Char × Path} (h : readChar c r = some r')
    (hword : IsWord r.1) (hp : r.2.WordsOnly) :
    IsWord r'.1 ∧ r'.2.WordsOnly ∧
      r'.1 ++ (continuedText r'.2).toList = c :: (r.1 ++ (continuedText r.2).toList) := by
  obtain ⟨word, p⟩ := r
  unfold readChar at h
  split_ifs at h with hdot hbracket hitems
  · cases h
    refine ⟨isWord_nil, wordsOnly_property_iff.2 ⟨by simpa using hword, hp⟩, ?_⟩
    simp [continuedText, Segment.continuedText, hdot]
  · cases h
    refine ⟨isWord_nil, wordsOnly_items_iff.2 hp, ?_⟩
    simp only at hitems
    simp [continuedText, Segment.continuedText, hbracket, hitems]
  · cases h
    exact ⟨isWord_cons_iff.2 ⟨hdot, hbracket, hword⟩, hp, rfl⟩

/-- **The end of a text says a word and segments exactly if it is their text.** -/
theorem readEnd_eq_some_iff {cs : List Char} {r : List Char × Path} :
    readEnd cs = some r ↔
      IsWord r.1 ∧ r.2.WordsOnly ∧ r.1 ++ (continuedText r.2).toList = cs := by
  constructor
  · intro h
    -- From the end on, the characters are always the text of what has been read of them.
    induction cs generalizing r with
    | nil =>
      cases h
      exact ⟨isWord_nil, wordsOnly_nil, rfl⟩
    | cons c cs ih =>
      obtain ⟨t, ht, hr⟩ := Option.bind_eq_some_iff.1 h
      obtain ⟨hword, hp, rfl⟩ := ih ht
      exact toList_of_readChar hr hword hp
  · rintro ⟨hword, hp, rfl⟩
    exact readEnd_append hword (readEnd_continuedText hp)

/-! ## The beginning of a path -/

/-- The word that a path begins with, and the segments behind it. -/
def start : Path → List Char × Path
  | .property name :: p => (name.toList, p)
  | p => ([], p)

theorem toList_text (p : Path) : p.text.toList = p.start.1 ++ (continuedText p.start.2).toList := by
  rcases p with _ | ⟨_ | _, p⟩ <;> simp [text, start, continuedText, Segment.text,
    Segment.continuedText]

theorem wordsOnly_iff_start (p : Path) :
    p.WordsOnly ↔ IsWord p.start.1 ∧ p.start.2.WordsOnly := by
  rcases p with _ | ⟨name | _, p⟩
  · simp [start, isWord_nil]
  · exact wordsOnly_property_iff
  · simp [start, isWord_nil]

theorem readStart_eq_some_iff {r : List Char × Path} {p : Path} :
    readStart r = some p ↔ p.head? ≠ some (.property "") ∧ p.start = r := by
  constructor
  · intro h
    rcases r with ⟨_ | ⟨c, word⟩, _ | ⟨_ | _, q⟩⟩ <;> cases h <;> simp [start]
  · rintro ⟨hhead, rfl⟩
    rcases p with _ | ⟨name | _, p⟩
    · rfl
    · obtain ⟨c, word, hname⟩ : ∃ c word, name.toList = c :: word := by
        refine List.exists_cons_of_ne_nil fun hnil => hhead ?_
        rw [String.toList_eq_nil_iff.1 hnil]
        rfl
      rw [start, hname, readStart, ← hname, String.ofList_toList]
    · rfl

/-! ## Main results -/

/-- **A text says a path exactly if the path is ordinary and this is its text.** -/
theorem ofText?_eq_some_iff {s : String} {p : Path} :
    ofText? s = some p ↔ p.Ordinary ∧ p.text = s := by
  have htext : p.text = s ↔ p.start.1 ++ (continuedText p.start.2).toList = s.toList := by
    rw [← toList_text, String.toList_inj]
  have hread : ofText? s = some p ↔
      readEnd s.toList = some p.start ∧ p.head? ≠ some (.property "") := by
    simp only [ofText?, Option.bind_eq_some_iff, readStart_eq_some_iff]
    constructor
    · rintro ⟨r, hr, hhead, rfl⟩
      exact ⟨hr, hhead⟩
    · rintro ⟨hr, hhead⟩
      exact ⟨_, hr, hhead, rfl⟩
  rw [hread, readEnd_eq_some_iff, ← and_assoc, ← wordsOnly_iff_start, ← htext]
  constructor
  · rintro ⟨⟨hwords, htext⟩, hhead⟩
    exact ⟨⟨hwords, hhead⟩, htext⟩
  · rintro ⟨⟨hwords, hhead⟩, htext⟩
    exact ⟨⟨hwords, htext⟩, hhead⟩

/-- **The text of an ordinary path determines it.** Two ordinary paths with one text are the same,
and the path of a text can be computed: what is read of a text is the ordinary path that has it, and
nothing is read of a text that no ordinary path has. -/
theorem text_determines_path :
    (∀ p q : Path, p.Ordinary → q.Ordinary → p.text = q.text → p = q) ∧
    ∀ (s : String) (p : Path), ofText? s = some p ↔ p.Ordinary ∧ p.text = s := by
  refine ⟨fun p q hp hq h => ?_, fun s p => ofText?_eq_some_iff⟩
  have hpread : ofText? q.text = some p := ofText?_eq_some_iff.2 ⟨hp, h⟩
  have hqread : ofText? q.text = some q := ofText?_eq_some_iff.2 ⟨hq, rfl⟩
  exact Option.some.inj (hpread.symm.trans hqread)

/-- A property with an empty name in the items of a table, and in it one whose name has a closing
bracket. -/
def cornerCell : Path := [.property "rows", .items, .property "", .property "x]"]

/-- Neither the empty name nor the bracket gets lost. -/
theorem cornerCell_determined :
    ∃ q, ofText? "rows[]..x]" = some q ∧ q.Ordinary ∧ cornerCell.Ordinary ∧
      cornerCell.text = q.text ∧ cornerCell = q := by
  obtain ⟨hunique, hread⟩ := text_determines_path
  have hcell : cornerCell.Ordinary := by
    constructor
    · simp [WordsOnly, IsWord, cornerCell]
    · simp [cornerCell]
  obtain ⟨q, hq⟩ : ∃ q, ofText? "rows[]..x]" = some q := ⟨_, rfl⟩
  obtain ⟨hordinary, htext⟩ := (hread _ q).1 hq
  have hsame : cornerCell.text = q.text := by
    rw [htext]
    rfl
  exact ⟨q, hq, hordinary, hcell, hsame, hunique _ q hcell hordinary hsame⟩

end Path

end SchemaTree
