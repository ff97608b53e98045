import SchemaTree.Proofs.Report
import Mathlib.Algebra.BigOperators.Group.List.Basic
import Mathlib.Algebra.GroupWithZero.Nat
import Mathlib.Data.Finset.Card
import Mathlib.Data.List.NodupEquivFin
import Mathlib.Data.List.Perm.Basic

/-!
# Where the check finds defects

The check of a node is the check of its parts with what is wrong at the node itself around it, and
between them what is wrong with the name of a property just before the check of that property. A
part is checked as it is checked alone, only its paths get longer.

* `Node.defectsBelow_eq`: a node and its parts, in order;
* **`Node.defectsBelow_append`**: another path in front; `isInfix_of_mem_reachable`;
* `Node.nameFlaws`: flaws of names, counted by `count_duplicateProperty`, `count_unnamedProperty`;
* `Node.ownDefects`, **`Node.defectsBelow_perm`**: all defects are those of the reachable nodes;
* `Node.Bears`: a node that really has a flaw, as it is or by its name;
* **`Node.report_located_and_counted`**.
-/

namespace SchemaTree

/-- The defect with a path in front of its own. -/
def Defect.below (path : Path) (d : Defect) : Defect := { d with path := path ++ d.path }

/-- The defect has a code and shows one segment below a path. -/
def Defect.OfProperty (code : String) (path : Path) (d : Defect) : Prop :=
  d.code = code ∧ d.path.dropLast = path

instance (code : String) (path : Path) (d : Defect) : Decidable (d.OfProperty code path) :=
  inferInstanceAs (Decidable (_ ∧ _))

namespace Node

/-- The defects that the report on a tree lists. -/
def reported (root : Node) : List Defect := (root.check.map Report.toList).getD []

theorem reported_eq (root : Node) : root.reported = defectsBelow [] root := by
  rw [reported, check]
  cases hr : Report.ofList? (defectsBelow [] root) with
  | none => exact ((check_eq_none_iff root).1 hr).symm
  | some r => exact Report.toList_of_ofList? hr

/-! ## A node and its parts -/

/-- The flaw in the number of children of a node. -/
def childrenFlaw? (n : Node) : Option Flaw :=
  if n.kind.isArray then if n.children.length = 1 then none else some (.itemCount n.children.length)
  else if n.kind.isObject then none
  else if n.children.isEmpty then none else some (.leafChildren n.kind)

/-- The flaw in the segment to the part with a number: only the name of a property can have one. -/
def segmentFlaw? (n : Node) (i : Nat) : Segment → Option Flaw
  | .property name => nameFlaw? ((n.children.take i).map Node.name) name
  | .items => none

theorem nameFlaw?_congr {seen seen' : List String} (h : ∀ a, a ∈ seen ↔ a ∈ seen') (name : String) :
    nameFlaw? seen name = nameFlaw? seen' name := by
  simp only [nameFlaw?, h]

theorem propertyDefects_eq {n : Node} (path : Path) (earlier cs : List Node)
    (h : n.children = earlier ++ cs) {seen : List String}
    (hseen : ∀ a, a ∈ seen ↔ a ∈ earlier.map Node.name) :
    propertyDefects path seen cs =
      ((cs.map fun c => (Segment.property c.name, c)).zipIdx earlier.length).flatMap fun e =>
        defectOf (path.push e.1.1) (n.segmentFlaw? e.2 e.1.1) ++
          defectsBelow (path.push e.1.1) e.1.2 := by
  induction cs generalizing earlier seen with
  | nil => rfl
  | cons c cs ih =>
    have hlater : n.children = (earlier ++ [c]) ++ cs := by simp [h]
    have hmore : ∀ a, a ∈ c.name :: seen ↔ a ∈ (earlier ++ [c]).map Node.name := by
      intro a
      simp [hseen a, or_comm]
    have hflaw : n.segmentFlaw? earlier.length (.property c.name) = nameFlaw? seen c.name := by
      rw [segmentFlaw?, h, List.take_left]
      exact (nameFlaw?_congr hseen c.name).symm
    rw [propertyDefects, ih _ hlater hmore, List.map_cons, List.zipIdx_cons, List.flatMap_cons,
      hflaw, List.length_append, List.length_singleton]

/-- **The defects of a node are what is wrong with its children, then for each part what is wrong
with its name and what is below it, and then what is wrong with its decimal places.** -/
theorem defectsBelow_eq (path : Path) (n : Node) :
    defectsBelow path n = defectOf path n.childrenFlaw? ++
      (n.parts.zipIdx.flatMap fun e => defectOf (path.push e.1.1) (n.segmentFlaw? e.2 e.1.1) ++
        defectsBelow (path.push e.1.1) e.1.2) ++ defectOf path (scaleFlaw? n.attributes) := by
  rcases n.object_or_array_or_leaf with hn | hn | hn
  · have hflaw : n.childrenFlaw? = none := by
      simp [childrenFlaw?, hn, Kind.isArray, Kind.isObject]
    rw [defectsBelow_of_object hn, propertyDefects_eq path [] n.children rfl (by simp), hflaw,
      parts_of_object hn]
    rfl
  · have hflaw : n.childrenFlaw? =
        if n.children.length = 1 then none else some (.itemCount n.children.length) := by
      simp [childrenFlaw?, hn, Kind.isArray]
    rw [defectsBelow_of_array hn, hflaw, parts_of_array hn]
    cases n.children with
    | nil => rfl
    | cons c cs => simp [itemDefects, segmentFlaw?, defectOf]
  · have hkind : n.kind.isObject = false ∧ n.kind.isArray = false := by
      simpa [Kind.isLeaf] using hn
    have hflaw : n.childrenFlaw? =
        if n.children.isEmpty then none else some (.leafChildren n.kind) := by
      simp [childrenFlaw?, hkind]
    rw [defectsBelow_of_leaf hn, hflaw, parts_of_leaf hn]
    simp

/-! ## Another path in front -/

theorem defectOf_append (p q : Path) (f : Option Flaw) :
    defectOf (p ++ q) f = (defectOf q f).map (Defect.below p) := by
  cases f <;> rfl

/-- **A node is checked below a path as it is checked without it, with the path in front.** -/
theorem defectsBelow_append (p : Path) (n : Node) :
    ∀ q : Path, defectsBelow (p ++ q) n = (defectsBelow q n).map (Defect.below p) := by
  induction n using parts_induction with
  | h n ih =>
    intro q
    rw [defectsBelow_eq, defectsBelow_eq q, List.map_append, List.map_append, List.map_flatMap,
      defectOf_append, defectOf_append]
    congr 2
    refine List.flatMap_congr fun e he => ?_
    have hpart : e.1 ∈ n.parts := List.fst_mem_of_mem_zipIdx he
    rw [Path.append_push, List.map_append, defectOf_append]
    exact congrArg _ (ih _ hpart _)

theorem isInfix_of_mem_reachable {m : Node} {q : Path} :
    ∀ (n : Node) (path : Path), (q, m) ∈ n.reachable path →
      defectsBelow q m <:+: defectsBelow path n := by
  refine parts_induction fun n ih path hm => ?_
  rcases mem_reachable_iff.1 hm with h | ⟨f, hf, hm⟩
  · obtain ⟨rfl, rfl⟩ := Prod.mk.inj h
    exact List.infix_refl _
  · obtain ⟨i, hi⟩ := List.mem_iff_getElem?.1 hf
    have hmem : (f, i) ∈ n.parts.zipIdx := List.mem_zipIdx_iff_getElem?.2 hi
    obtain ⟨before, after, hsplit⟩ := List.append_of_mem hmem
    have hpart : defectsBelow (path.push f.1) f.2 <:+: defectsBelow path n := by
      rw [defectsBelow_eq path n, hsplit, List.flatMap_append, List.flatMap_cons]
      refine List.IsInfix.trans ?_ (List.infix_append _ _ _)
      refine List.IsInfix.trans ?_ (List.infix_append' _ _ _)
      exact (List.suffix_append _ _).isInfix
    exact (ih f hf _ hm).trans hpart

/-! ## Flaws of names -/

/-- The flaws of names that come one after the other. -/
def nameFlaws (names : List String) : List Flaw :=
  names.zipIdx.filterMap fun e => nameFlaw? (names.take e.2) e.1

theorem nameFlaws_concat (names : List String) (name : String) :
    nameFlaws (names ++ [name]) = nameFlaws names ++ (nameFlaw? names name).toList := by
  have hearlier : names.zipIdx.filterMap (fun e => nameFlaw? ((names ++ [name]).take e.2) e.1) =
      nameFlaws names := by
    refine List.filterMap_congr fun e he => ?_
    have hlt : e.2 < names.length := List.snd_lt_of_mem_zipIdx he
    rw [List.take_append_of_le_length (Nat.le_of_lt hlt)]
  have hname : [(name, names.length)].filterMap
      (fun e => nameFlaw? ((names ++ [name]).take e.2) e.1) = (nameFlaw? names name).toList := by
    rw [List.filterMap_cons, List.take_left]
    cases nameFlaw? names name <;> rfl
  rw [nameFlaws, List.zipIdx_append, List.filterMap_append, hearlier, Nat.zero_add]
  exact congrArg _ hname

/-- The names with characters. -/
def properNames (names : List String) : List String := names.filter (· ≠ "")

theorem nameFlaw?_empty (seen : List String) : nameFlaw? seen "" = some .unnamedProperty := rfl

theorem nameFlaw?_of_ne {name : String} (h : name ≠ "") (seen : List String) :
    nameFlaw? seen name = if name ∈ seen then some (.duplicateProperty name) else none := by
  rw [nameFlaw?, if_neg (by simpa using h)]

/-- **A name is reported as repeated for every proper name that is not the first of its kind.** -/
theorem count_duplicateProperty (names : List String) :
    ((nameFlaws names).map Flaw.code).count "duplicate_property" +
      (properNames names).toFinset.card = (properNames names).length := by
  induction names using List.reverseRecOn with
  | nil => rfl
  | append_singleton names name ih =>
    rw [nameFlaws_concat, List.map_append, List.count_append]
    by_cases hname : name = ""
    · have hproper : properNames (names ++ [name]) = properNames names := by
        simp [properNames, hname]
      rw [hproper, hname, nameFlaw?_empty]
      exact ih
    · have hproper : properNames (names ++ [name]) = properNames names ++ [name] := by
        simp [properNames, hname]
      have hmem : name ∈ properNames names ↔ name ∈ names := by
        simp [properNames, hname]
      have hcard : (properNames (names ++ [name])).toFinset.card =
          (insert name (properNames names).toFinset).card := by
        rw [hproper, List.toFinset_append]
        congr 1
        ext a
        simp
      rw [hcard, hproper, nameFlaw?_of_ne hname, List.length_append, List.length_singleton]
      by_cases hseen : name ∈ names
      · rw [if_pos hseen, Finset.insert_eq_of_mem (List.mem_toFinset.2 (hmem.2 hseen))]
        simp [Flaw.code]
        omega
      · rw [if_neg hseen, Finset.card_insert_of_notMem (mt List.mem_toFinset.1 (mt hmem.1 hseen))]
        simp
        omega

theorem count_unnamedProperty (names : List String) :
    ((nameFlaws names).map Flaw.code).count "unnamed_property" = names.count "" := by
  induction names using List.reverseRecOn with
  | nil => rfl
  | append_singleton names name ih =>
    rw [nameFlaws_concat, List.map_append, List.count_append, List.count_append, ih]
    by_cases hname : name = ""
    · rw [hname]
      rfl
    · rw [nameFlaw?_of_ne hname]
      split_ifs <;> simp [Flaw.code, hname]

/-! ## Own defects -/

/-- The names of the children of a node. -/
def childNames (n : Node) : List String := n.children.map Node.name

/-- What is wrong with the names of the properties of a node at a path. -/
def nameDefects (path : Path) (n : Node) : List Defect :=
  n.parts.zipIdx.flatMap fun e => defectOf (path.push e.1.1) (n.segmentFlaw? e.2 e.1.1)

/-- What is wrong with a node at a path, without what is wrong with its parts. -/
def ownDefects (path : Path) (n : Node) : List Defect :=
  defectOf path n.childrenFlaw? ++ n.nameDefects path ++ defectOf path (scaleFlaw? n.attributes)

theorem defectsBelow_perm_parts (path : Path) (n : Node) :
    (defectsBelow path n).Perm
      (n.ownDefects path ++ n.parts.flatMap fun e => defectsBelow (path.push e.1) e.2) := by
  have hparts : (n.parts.zipIdx.flatMap fun e => defectsBelow (path.push e.1.1) e.1.2) =
      n.parts.flatMap fun e => defectsBelow (path.push e.1) e.2 := by
    rw [← List.zipIdx_map_fst 0 n.parts, List.flatMap_map, List.zipIdx_map_fst]
  have hblocks := List.flatMap_append_perm n.parts.zipIdx
    (fun e => defectOf (path.push e.1.1) (n.segmentFlaw? e.2 e.1.1))
    (fun e => defectsBelow (path.push e.1.1) e.1.2)
  rw [hparts] at hblocks
  rw [defectsBelow_eq, ownDefects]
  refine ((hblocks.symm.append_left _).append_right _).trans ?_
  rw [← nameDefects, List.append_assoc, List.append_assoc, List.append_assoc, List.append_assoc]
  exact (List.perm_append_comm.append_left _).append_left _

/-- **All defects of a tree are the own ones of its reachable nodes**, as often as they occur. -/
theorem defectsBelow_perm (n : Node) : ∀ path : Path,
    (defectsBelow path n).Perm ((n.reachable path).flatMap fun e => e.2.ownDefects e.1) := by
  induction n using parts_induction with
  | h n ih =>
    intro path
    have hparts : (n.parts.flatMap fun e => defectsBelow (path.push e.1) e.2).Perm
        (n.parts.flatMap fun e => (e.2.reachable (path.push e.1)).flatMap fun d =>
          d.2.ownDefects d.1) := List.Perm.flatMap_left _ fun e he => ih e he _
    rw [reachable_eq, List.flatMap_cons, List.flatMap_assoc]
    exact (defectsBelow_perm_parts path n).trans (hparts.append_left _)

/-! ## Numbers of defects -/

/-- The codes of what is wrong with the name of a property. -/
def nameCodes : List String := ["unnamed_property", "duplicate_property"]

section

variable {code : String} {path p : Path} {n : Node}

theorem countP_flatMap_defectOf {α : Type} (l : List α) (segment : α → Segment)
    (f : α → Option Flaw) :
    (l.flatMap fun a => defectOf (path.push (segment a)) (f a)).countP (·.OfProperty code p) =
      if path = p then ((l.filterMap f).map Flaw.code).count code else 0 := by
  induction l with
  | nil => simp
  | cons a l ih =>
    rw [List.flatMap_cons, List.countP_append, ih, List.filterMap_cons]
    cases f a with
    | none => simp [defectOf]
    | some g =>
      have hpath : (path.push (segment a)).dropLast = path := List.dropLast_concat
      by_cases hp : path = p
      · subst hp
        rw [if_pos rfl, if_pos rfl, List.map_cons, List.count_cons]
        simp [defectOf, Flaw.at, Defect.OfProperty, hpath, List.countP_cons, Nat.add_comm]
      · rw [if_neg hp, if_neg hp]
        simp [defectOf, Flaw.at, Defect.OfProperty, hpath, hp]

theorem countP_defectOf_of_code {f : Option Flaw} (h : ∀ g, f = some g → g.code ≠ code) :
    (defectOf path f).countP (·.OfProperty code p) = 0 := by
  cases f with
  | none => rfl
  | some g => simp [defectOf, Flaw.at, Defect.OfProperty, h g rfl]

theorem code_childrenFlaw? (hcode : code ∈ nameCodes) {g : Flaw} (h : n.childrenFlaw? = some g) :
    g.code ≠ code := by
  rw [childrenFlaw?] at h
  split_ifs at h <;> cases h <;> rintro rfl <;> simp [nameCodes, Flaw.code] at hcode

theorem code_scaleFlaw? (hcode : code ∈ nameCodes) {a : Attributes} {g : Flaw}
    (h : scaleFlaw? a = some g) : g.code ≠ code := by
  rw [scaleFlaw?] at h
  split_ifs at h
  cases h
  rintro rfl
  simp [nameCodes, Flaw.code] at hcode

theorem countP_nameDefects : (n.nameDefects path).countP (·.OfProperty code p) =
    if path = p ∧ n.kind = .object then ((nameFlaws n.childNames).map Flaw.code).count code
    else 0 := by
  rw [nameDefects, countP_flatMap_defectOf n.parts.zipIdx (fun e => e.1.1)]
  rcases n.object_or_array_or_leaf with hn | hn | hn
  · have hflaws : n.parts.zipIdx.filterMap (fun e => n.segmentFlaw? e.2 e.1.1) =
        nameFlaws n.childNames := by
      rw [parts_of_object hn, nameFlaws, childNames, List.zipIdx_map, List.zipIdx_map,
        List.filterMap_map, List.filterMap_map]
      refine List.filterMap_congr fun e _ => ?_
      simp [segmentFlaw?, List.map_take]
    simp only [hflaws, hn, and_true]
  · have hflaws : n.parts.zipIdx.filterMap (fun e => n.segmentFlaw? e.2 e.1.1) = [] := by
      rw [parts_of_array hn]
      cases n.children <;> rfl
    simp [hflaws, hn]
  · have hobject : n.kind ≠ .object := by
      intro h
      rw [h] at hn
      cases hn
    simp [parts_of_leaf hn, hobject]

theorem countP_ownDefects (hcode : code ∈ nameCodes) :
    (n.ownDefects path).countP (·.OfProperty code p) =
      if path = p ∧ n.kind = .object then ((nameFlaws n.childNames).map Flaw.code).count code
      else 0 := by
  rw [ownDefects, List.countP_append, List.countP_append, countP_nameDefects,
    countP_defectOf_of_code fun g => code_childrenFlaw? hcode,
    countP_defectOf_of_code fun g => code_scaleFlaw? hcode, Nat.zero_add, Nat.add_zero]

/-- **The defects of names below a path are the flaws of the names of the objects there.** -/
theorem countP_defectsBelow (hcode : code ∈ nameCodes) (path p : Path) (n : Node) :
    (defectsBelow path n).countP (·.OfProperty code p) =
      (((n.reachable path).filter fun e => e.1 = p ∧ e.2.kind = .object).map fun e =>
        ((nameFlaws e.2.childNames).map Flaw.code).count code).sum := by
  have hown : ∀ e ∈ n.reachable path,
      (List.countP (·.OfProperty code p) ∘ fun e : Path × Node => e.2.ownDefects e.1) e =
        if e.1 = p ∧ e.2.kind = .object then ((nameFlaws e.2.childNames).map Flaw.code).count code
        else 0 := fun e _ => countP_ownDefects hcode
  rw [(defectsBelow_perm n path).countP_eq, List.countP_flatMap, List.map_congr_left hown,
    List.sum_map_ite]
  simp

theorem countP_reported_of_object (hcode : code ∈ nameCodes) (hn : n.kind = .object) :
    n.reported.countP (·.OfProperty code []) =
      ((nameFlaws n.childNames).map Flaw.code).count code := by
  have hbelow : (n.parts.flatMap fun e => e.2.reachable (Path.push [] e.1)).filter
      (fun e => e.1 = [] ∧ e.2.kind = .object) = [] := by
    rw [List.filter_eq_nil_iff]
    intro d hd
    obtain ⟨e, -, hd⟩ := List.mem_flatMap.1 hd
    have hne : d.1 ≠ [] := by
      intro hnil
      have hprefix := prefix_of_mem_reachable hd
      rw [hnil, List.prefix_nil] at hprefix
      cases hprefix
    simp [hne]
  rw [reported_eq, countP_defectsBelow hcode, reachable_eq, List.filter_cons_of_pos (by simp [hn]),
    hbelow, List.map_singleton, List.sum_singleton]

end

/-! ## Sound reports -/

/-- A node at a path really has a flaw: by its own kind, children and decimal places or, for flaws
of names, as a property of a reachable object. -/
inductive Bears (root : Node) : Path → Node → Flaw → Prop
  | itemCount {path : Path} {n : Node} : n.kind = .array → n.children.length ≠ 1 →
    Bears root path n (.itemCount n.children.length)
  | leafChildren {path : Path} {n : Node} : n.kind.isLeaf = true → n.children ≠ [] →
    Bears root path n (.leafChildren n.kind)
  | scaleNotApplicable {path : Path} {n : Node} : n.attributes.scale.isSome = true →
    n.kind.isDecimal = false → Bears root path n (.scaleNotApplicable n.kind)
  | unnamedProperty {above : Path} {parent c : Node} : (above, parent) ∈ root.reachable [] →
    parent.kind = .object → c ∈ parent.children → c.name = "" →
    Bears root (above.push (.property c.name)) c .unnamedProperty
  | duplicateProperty {above : Path} {parent b c : Node} {i j : Nat} :
    (above, parent) ∈ root.reachable [] → parent.kind = .object → i < j →
    parent.children[i]? = some b → parent.children[j]? = some c → b.name = c.name → c.name ≠ "" →
    Bears root (above.push (.property c.name)) c (.duplicateProperty c.name)

theorem exists_lt_of_count {n : Node} {name : String}
    (h : 1 < (n.children.map Node.name).count name) :
    ∃ (i j : Nat) (b c : Node), i < j ∧ n.children[i]? = some b ∧ n.children[j]? = some c ∧
      b.name = name ∧ c.name = name := by
  have hduplicate := List.duplicate_iff_two_le_count.2 h
  obtain ⟨i, j, hlt, hi, hj⟩ := List.duplicate_iff_exists_distinct_get.1 hduplicate
  have hchild (i : Fin (n.children.map Node.name).length) (hi : name = List.get _ i) :
      ∃ c, n.children[i.1]? = some c ∧ c.name = name := by
    have hget : (n.children.map Node.name)[i.1]? = some name := by
      rw [hi]
      exact List.getElem?_eq_getElem i.2
    rw [List.getElem?_map] at hget
    exact Option.map_eq_some_iff.1 hget
  obtain ⟨b, hb, hbname⟩ := hchild i hi
  obtain ⟨c, hc, hcname⟩ := hchild j hj
  exact ⟨i.1, j.1, b, c, hlt, hb, hc, hbname, hcname⟩

/-- **Every defect of a report is a flaw that a reachable node at its path bears.** -/
theorem bears_of_mem_reported {root : Node} {d : Defect} (h : d ∈ root.reported) :
    ∃ n f, (d.path, n) ∈ root.reachable [] ∧ root.Bears d.path n f ∧ d = f.at d.path := by
  rw [reported_eq] at h
  obtain ⟨⟨above, n⟩, hn, q, f, hf, rfl⟩ := (mem_defectsBelow_iff root []).1 h
  cases hf with
  | itemCount hkind hlength =>
    exact ⟨n, _, by simpa [Flaw.at] using hn, .itemCount hkind hlength, rfl⟩
  | leafChildren hkind hne =>
    exact ⟨n, _, by simpa [Flaw.at] using hn, .leafChildren hkind hne, rfl⟩
  | scaleNotApplicable hscale hkind =>
    exact ⟨n, _, by simpa [Flaw.at] using hn, .scaleNotApplicable hscale hkind, rfl⟩
  | @unnamedProperty c hkind hc hname =>
    have hpath : above ++ [.property ""] = above.push (.property c.name) := by
      rw [hname]
      rfl
    have hreachable := part_mem_reachable hn (property_mem_parts hkind hc)
    exact ⟨c, _, hpath ▸ hreachable, hpath ▸ .unnamedProperty hn hkind hc hname, rfl⟩
  | @duplicateProperty name hkind hne hlt =>
    obtain ⟨i, j, b, c, hij, hb, hc, hbname, rfl⟩ := exists_lt_of_count hlt
    have hreachable := part_mem_reachable hn (property_mem_parts hkind (List.mem_of_getElem? hc))
    exact ⟨c, _, hreachable, .duplicateProperty hn hkind hij hb hc hbname hne, rfl⟩

/-- **The defects of a report are sound, counted and located.** Every defect is a flaw that a
reachable node at its path bears. The report on a reachable node is part of the report, behind the
path of the node. For an object, its own names are reported as repeated as often as there are more
proper names than different ones, and as missing as often as they are; in the report on a tree these
are the numbers for all objects at a path together. The report on a node is what is wrong with its
children, then for every part what is wrong with its name and the report on the part alone behind
its segment, and then what is wrong with its decimal places. -/
theorem report_located_and_counted (root : Node) :
    (∀ d ∈ root.reported, ∃ n f,
      (d.path, n) ∈ root.reachable [] ∧ root.Bears d.path n f ∧ d = f.at d.path) ∧
    (∀ e ∈ root.reachable [], e.2.reported.map (Defect.below e.1) <:+: root.reported) ∧
    (∀ e ∈ root.reachable [], e.2.kind = .object →
      e.2.reported.countP (·.OfProperty "duplicate_property" []) =
        (properNames e.2.childNames).length - (properNames e.2.childNames).toFinset.card ∧
      e.2.reported.countP (·.OfProperty "unnamed_property" []) = e.2.childNames.count "") ∧
    (∀ p : Path,
      root.reported.countP (·.OfProperty "duplicate_property" p) =
        (((root.reachable []).filter fun e => e.1 = p ∧ e.2.kind = .object).map fun e =>
          (properNames e.2.childNames).length - (properNames e.2.childNames).toFinset.card).sum ∧
      root.reported.countP (·.OfProperty "unnamed_property" p) =
        (((root.reachable []).filter fun e => e.1 = p ∧ e.2.kind = .object).map fun e =>
          e.2.childNames.count "").sum) ∧
    root.reported = defectOf [] root.childrenFlaw? ++
      (root.parts.zipIdx.flatMap fun e => defectOf [e.1.1] (root.segmentFlaw? e.2 e.1.1) ++
        e.1.2.reported.map (Defect.below [e.1.1])) ++ defectOf [] (scaleFlaw? root.attributes) := by
  have hduplicate (names : List String) :
      ((nameFlaws names).map Flaw.code).count "duplicate_property" =
        (properNames names).length - (properNames names).toFinset.card :=
    Nat.eq_sub_of_add_eq (count_duplicateProperty names)
  have halone (path : Path) (n : Node) :
      n.reported.map (Defect.below path) = defectsBelow path n := by
    rw [reported_eq, ← defectsBelow_append, List.append_nil]
  refine ⟨fun d hd => bears_of_mem_reported hd, fun e he => ?_, fun e _ hn => ⟨?_, ?_⟩,
    fun p => ⟨?_, ?_⟩, ?_⟩
  · rw [halone, reported_eq root]
    exact isInfix_of_mem_reachable root [] he
  · rw [countP_reported_of_object (by decide) hn, hduplicate]
  · rw [countP_reported_of_object (by decide) hn, count_unnamedProperty]
  · rw [reported_eq, countP_defectsBelow (by decide)]
    simp only [hduplicate]
  · rw [reported_eq, countP_defectsBelow (by decide)]
    simp only [count_unnamedProperty]
  · simp only [halone]
    rw [reported_eq]
    exact defectsBelow_eq [] root

/-- An object with three properties of one name, of which two have a property without a name. -/
def muddled : Node :=
  let nameless := (ofKind .object).child (ofKind .string)
  (ofKind .object).field "id" (ofKind .integer) |>.field "id" nameless |>.field "id" nameless

/-- Two of three names are repeated, and two names are missing at one path, one in each object. -/
theorem muddled_counted :
    muddled.kind = .object ∧ muddled.reported.countP (·.OfProperty "duplicate_property" []) = 2 ∧
      muddled.reported.countP (·.OfProperty "unnamed_property" [.property "id"]) = 2 ∧
      ∃ d ∈ muddled.reported, d.text = "id.: object property has no name" ∧
        ∃ n f, (d.path, n) ∈ muddled.reachable [] ∧ muddled.Bears d.path n f ∧ d = f.at d.path := by
  obtain ⟨hsound, -, hown, htotal, -⟩ := report_located_and_counted muddled
  have hrepeated := (hown ([], muddled) (self_mem_reachable _ _) rfl).1
  have hmissing := (htotal [.property "id"]).2
  obtain ⟨d, hd, htext⟩ : ∃ d ∈ muddled.reported, d.text = "id.: object property has no name" := by
    rw [reported_eq]
    exact ⟨_, List.mem_of_getElem? (i := 1) rfl, rfl⟩
  exact ⟨rfl, hrepeated.trans (by decide), hmissing.trans (by decide), d, hd, htext, hsound d hd⟩

end Node

end SchemaTree
