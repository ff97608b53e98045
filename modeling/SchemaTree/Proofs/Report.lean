import SchemaTree.Proofs.WellFormed
import Mathlib.Data.List.Count

/-!
# What the check reports

The check goes to the reachable nodes and reports all their flaws, each at its place, and nothing
else. A node that it does not reach lies below a reachable one with too many children, and that is
reported.

* `Node.HasFlaw`: a flaw of a node itself, and where it shows from there;
* **`Node.mem_defectsBelow_iff`**: the defects of a tree are the flaws of its reachable nodes;
* `Node.reachable_or_below`: where a node lies that is not reachable;
* **`Node.passes_iff_wellFormed`**, **`Node.report_of_reachable`**;
* `crowded_unreported`: a flaw that the check does not reach.
-/

namespace SchemaTree

namespace Node

theorem mem_report_iff {root : Node} {d : Defect} :
    (∃ r, root.check = some r ∧ d ∈ r.toList) ↔ d ∈ defectsBelow [] root := by
  simp only [check, Report.ofList?_eq_some_iff]
  constructor
  · rintro ⟨r, hr, hd⟩
    rwa [hr] at hd
  · intro hd
    obtain ⟨r, hr⟩ := Report.exists_toList_eq (List.ne_nil_of_mem hd)
    exact ⟨r, hr, hr ▸ hd⟩

/-! ## Flaws of a node -/

/-- A flaw that the node itself has, with the way from the node to the place where it shows. A name
without characters is no name, so it is not repeated either. -/
inductive HasFlaw (n : Node) : Path → Flaw → Prop
  | itemCount : n.kind = .array → n.children.length ≠ 1 →
    HasFlaw n [] (.itemCount n.children.length)
  | unnamedProperty {c : Node} : n.kind = .object → c ∈ n.children → c.name = "" →
    HasFlaw n [.property ""] .unnamedProperty
  | duplicateProperty {name : String} : n.kind = .object → name ≠ "" →
    1 < (n.children.map Node.name).count name →
    HasFlaw n [.property name] (.duplicateProperty name)
  | leafChildren : n.kind.isLeaf = true → n.children ≠ [] → HasFlaw n [] (.leafChildren n.kind)
  | scaleNotApplicable : n.attributes.scale.isSome = true → n.kind.isDecimal = false →
    HasFlaw n [] (.scaleNotApplicable n.kind)

theorem mem_defectOf_iff {path : Path} {f : Option Flaw} {d : Defect} :
    d ∈ defectOf path f ↔ ∃ g, f = some g ∧ d = g.at path := by
  cases f <;> simp [defectOf]

theorem nameFlaw?_eq_some_iff {seen : List String} {name : String} {f : Flaw} :
    nameFlaw? seen name = some f ↔
      name = "" ∧ f = .unnamedProperty ∨
        name ≠ "" ∧ name ∈ seen ∧ f = .duplicateProperty name := by
  unfold nameFlaw?
  split_ifs with hempty hseen
  · simp [String.isEmpty_iff.1 hempty, eq_comm]
  · have hname : name ≠ "" := fun h => hempty (String.isEmpty_iff.2 h)
    simp [hname, hseen, eq_comm]
  · simp [hseen, ← String.isEmpty_iff, hempty]

/-- Among names that come after others, one is repeated if it came before or comes again. -/
theorem exists_repeated_cons {seen names : List String} {a : String} {P : String → Prop} :
    (∃ name ∈ a :: names, P name ∧ 1 < (seen ++ a :: names).count name) ↔
      (P a ∧ a ∈ seen) ∨ ∃ name ∈ names, P name ∧ 1 < (a :: seen ++ names).count name := by
  have hcount (name : String) :
      (seen ++ a :: names).count name = (a :: seen ++ names).count name :=
    List.Perm.count_eq List.perm_middle name
  simp only [hcount, List.mem_cons]
  constructor
  · rintro ⟨name, rfl | hname, hP, hlt⟩
    · by_cases hseen : name ∈ seen
      · exact Or.inl ⟨hP, hseen⟩
      · have hnone : seen.count name = 0 := List.count_eq_zero.2 hseen
        have hmem : name ∈ names := by simpa [hnone] using hlt
        exact Or.inr ⟨name, hmem, hP, hlt⟩
    · exact Or.inr ⟨name, hname, hP, hlt⟩
  · rintro (⟨hP, hseen⟩ | ⟨name, hname, hP, hlt⟩)
    · have hpos := List.count_pos_iff.2 hseen
      have hlt : 1 < (a :: seen ++ names).count a := by
        rw [List.cons_append, List.count_cons_self, List.count_append]
        omega
      exact ⟨a, Or.inl rfl, hP, hlt⟩
    · exact ⟨name, Or.inr hname, hP, hlt⟩

theorem mem_propertyDefects_iff {path : Path} {seen : List String} {cs : List Node} {d : Defect} :
    d ∈ propertyDefects path seen cs ↔
      (∃ c ∈ cs, c.name = "" ∧ d = Flaw.unnamedProperty.at (path.push (.property ""))) ∨
      (∃ name ∈ cs.map Node.name,
        (name ≠ "" ∧ d = (Flaw.duplicateProperty name).at (path.push (.property name))) ∧
          1 < (seen ++ cs.map Node.name).count name) ∨
      ∃ c ∈ cs, d ∈ defectsBelow (path.push (.property c.name)) c := by
  induction cs generalizing seen with
  | nil => simp [propertyDefects]
  | cons c cs ih =>
    have hname : d ∈ defectOf (path.push (.property c.name)) (nameFlaw? seen c.name) ↔
        (c.name = "" ∧ d = Flaw.unnamedProperty.at (path.push (.property ""))) ∨
          (c.name ≠ "" ∧ d = (Flaw.duplicateProperty c.name).at (path.push (.property c.name))) ∧
            c.name ∈ seen := by
      rw [mem_defectOf_iff]
      simp only [nameFlaw?_eq_some_iff]
      constructor
      · rintro ⟨f, ⟨hempty, rfl⟩ | ⟨hne, hseen, rfl⟩, rfl⟩
        · exact Or.inl ⟨hempty, by rw [hempty]⟩
        · exact Or.inr ⟨⟨hne, rfl⟩, hseen⟩
      · rintro (⟨hempty, rfl⟩ | ⟨⟨hne, rfl⟩, hseen⟩)
        · exact ⟨_, Or.inl ⟨hempty, rfl⟩, by rw [hempty]⟩
        · exact ⟨_, Or.inr ⟨hne, hseen, rfl⟩, rfl⟩
    rw [propertyDefects, List.mem_append, List.mem_append, hname, ih, List.map_cons,
      exists_repeated_cons, List.exists_mem_cons_iff, List.exists_mem_cons_iff]
    exact iff_of_eq (by ac_rfl)

theorem mem_itemDefects_iff {path : Path} {cs : List Node} {d : Defect} :
    d ∈ itemDefects path cs ↔
      ∃ e ∈ cs.head?.toList.map fun c => (Segment.items, c), d ∈ defectsBelow (path.push e.1) e.2 := by
  cases cs <;> simp [itemDefects]

theorem mem_scaleDefect_iff {path : Path} {a : Attributes} {d : Defect} :
    d ∈ defectOf path (scaleFlaw? a) ↔
      a.scale.isSome = true ∧ a.kind.isDecimal = false ∧
        d = (Flaw.scaleNotApplicable a.kind).at path := by
  unfold scaleFlaw?
  rw [mem_defectOf_iff]
  cases a.scale.isSome <;> cases a.kind.isDecimal <;> simp

section

variable {path : Path} {n : Node}

theorem defectsBelow_of_object (h : n.kind = .object) :
    defectsBelow path n =
      propertyDefects path [] n.children ++ defectOf path (scaleFlaw? n.attributes) := by
  obtain ⟨a, cs⟩ := n
  have ha : a.kind = .object := h
  rw [defectsBelow, if_neg (by simp [ha, Kind.isArray]), if_pos (by simp [ha, Kind.isObject])]
  rfl

theorem defectsBelow_of_array (h : n.kind = .array) :
    defectsBelow path n =
      defectOf path (if n.children.length = 1 then none else some (.itemCount n.children.length)) ++
        itemDefects path n.children ++ defectOf path (scaleFlaw? n.attributes) := by
  obtain ⟨a, cs⟩ := n
  have ha : a.kind = .array := h
  rw [defectsBelow, if_pos (by simp [ha, Kind.isArray])]
  rfl

theorem defectsBelow_of_leaf (h : n.kind.isLeaf = true) :
    defectsBelow path n =
      defectOf path (if n.children.isEmpty then none else some (.leafChildren n.kind)) ++
        defectOf path (scaleFlaw? n.attributes) := by
  obtain ⟨a, cs⟩ := n
  have ha : a.kind.isObject = false ∧ a.kind.isArray = false := by
    simpa [Kind.isLeaf, kind, attributes] using h
  rw [defectsBelow, if_neg (by simp [ha]), if_neg (by simp [ha])]
  rfl

end

/-! ## Defects of a tree -/

section

variable {path : Path} {n : Node} {d : Defect}

/-- The defect is a flaw of the node itself. -/
def OwnDefect (path : Path) (n : Node) (d : Defect) : Prop :=
  ∃ q f, n.HasFlaw q f ∧ d = f.at (path ++ q)

theorem ownDefect_scale (h : n.attributes.scale.isSome = true ∧
    n.attributes.kind.isDecimal = false ∧
      d = (Flaw.scaleNotApplicable n.attributes.kind).at path) : OwnDefect path n d := by
  obtain ⟨hscale, hkind, rfl⟩ := h
  exact ⟨[], _, .scaleNotApplicable hscale hkind, by rw [List.append_nil]; rfl⟩

theorem mem_defectsBelow_object_iff (hn : n.kind = .object) :
    d ∈ defectsBelow path n ↔
      OwnDefect path n d ∨ ∃ e ∈ n.parts, d ∈ defectsBelow (path.push e.1) e.2 := by
  rw [defectsBelow_of_object hn, List.mem_append, mem_propertyDefects_iff, mem_scaleDefect_iff,
    parts_of_object hn]
  constructor
  · rintro ((⟨c, hc, hempty, rfl⟩ | ⟨name, -, ⟨hne, rfl⟩, hlt⟩ | ⟨c, hc, hd⟩) | h)
    · exact Or.inl ⟨_, _, .unnamedProperty hn hc hempty, rfl⟩
    · exact Or.inl ⟨_, _, .duplicateProperty hn hne (by simpa using hlt), rfl⟩
    · exact Or.inr ⟨(.property c.name, c), List.mem_map_of_mem hc, hd⟩
    · exact Or.inl (ownDefect_scale h)
  · rintro (⟨q, f, hf, rfl⟩ | ⟨e, he, hd⟩)
    · cases hf with
      | itemCount h => simp [hn] at h
      | unnamedProperty _ hc hempty => exact Or.inl (Or.inl ⟨_, hc, hempty, rfl⟩)
      | @duplicateProperty name _ hne hlt =>
        have hmem : name ∈ n.children.map Node.name := List.count_pos_iff.1 (by omega)
        exact Or.inl (Or.inr (Or.inl ⟨name, hmem, ⟨hne, rfl⟩, by simpa using hlt⟩))
      | leafChildren h => simp [hn, Kind.isLeaf, Kind.isObject] at h
      | scaleNotApplicable hs hk => exact Or.inr ⟨hs, hk, by rw [List.append_nil]; rfl⟩
    · obtain ⟨c, hc, rfl⟩ := List.mem_map.1 he
      exact Or.inl (Or.inr (Or.inr ⟨c, hc, hd⟩))

theorem mem_defectsBelow_array_iff (hn : n.kind = .array) :
    d ∈ defectsBelow path n ↔
      OwnDefect path n d ∨ ∃ e ∈ n.parts, d ∈ defectsBelow (path.push e.1) e.2 := by
  rw [defectsBelow_of_array hn, List.mem_append, List.mem_append, mem_itemDefects_iff,
    mem_scaleDefect_iff, parts_of_array hn, mem_defectOf_iff]
  constructor
  · rintro ((⟨f, hf, rfl⟩ | h) | h)
    · split_ifs at hf with hlength
      obtain rfl := Option.some.inj hf
      exact Or.inl ⟨[], _, .itemCount hn hlength, by rw [List.append_nil]⟩
    · exact Or.inr h
    · exact Or.inl (ownDefect_scale h)
  · rintro (⟨q, f, hf, rfl⟩ | h)
    · cases hf with
      | itemCount _ hlength => exact Or.inl (Or.inl ⟨_, if_neg hlength, by rw [List.append_nil]⟩)
      | unnamedProperty h => simp [hn] at h
      | duplicateProperty h => simp [hn] at h
      | leafChildren h => simp [hn, Kind.isLeaf, Kind.isArray] at h
      | scaleNotApplicable hs hk => exact Or.inr ⟨hs, hk, by rw [List.append_nil]; rfl⟩
    · exact Or.inl (Or.inr h)

theorem mem_defectsBelow_leaf_iff (hn : n.kind.isLeaf = true) :
    d ∈ defectsBelow path n ↔
      OwnDefect path n d ∨ ∃ e ∈ n.parts, d ∈ defectsBelow (path.push e.1) e.2 := by
  rw [defectsBelow_of_leaf hn, List.mem_append, mem_scaleDefect_iff, parts_of_leaf hn,
    mem_defectOf_iff]
  constructor
  · rintro (⟨f, hf, rfl⟩ | h)
    · split_ifs at hf with hempty
      obtain rfl := Option.some.inj hf
      exact Or.inl ⟨[], _, .leafChildren hn (by simpa using hempty), by rw [List.append_nil]⟩
    · exact Or.inl (ownDefect_scale h)
  · rintro (⟨q, f, hf, rfl⟩ | ⟨e, he, -⟩)
    · cases hf with
      | itemCount h => simp [h, Kind.isLeaf, Kind.isArray] at hn
      | unnamedProperty h => simp [h, Kind.isLeaf, Kind.isObject] at hn
      | duplicateProperty h => simp [h, Kind.isLeaf, Kind.isObject] at hn
      | leafChildren _ hne => exact Or.inl ⟨_, if_neg (by simpa using hne), by rw [List.append_nil]⟩
      | scaleNotApplicable hs hk => exact Or.inr ⟨hs, hk, by rw [List.append_nil]; rfl⟩
    · cases he

theorem mem_defectsBelow_iff_parts :
    d ∈ defectsBelow path n ↔
      OwnDefect path n d ∨ ∃ e ∈ n.parts, d ∈ defectsBelow (path.push e.1) e.2 := by
  rcases n.object_or_array_or_leaf with hn | hn | hn
  · exact mem_defectsBelow_object_iff hn
  · exact mem_defectsBelow_array_iff hn
  · exact mem_defectsBelow_leaf_iff hn

end

/-- **The defects of a tree are the flaws of its reachable nodes.** -/
theorem mem_defectsBelow_iff {d : Defect} (n : Node) :
    ∀ path : Path, d ∈ defectsBelow path n ↔ ∃ e ∈ n.reachable path, OwnDefect e.1 e.2 d := by
  induction n using parts_induction with
  | h n ih =>
    intro path
    rw [mem_defectsBelow_iff_parts]
    constructor
    · rintro (hd | ⟨e, he, hd⟩)
      · exact ⟨(path, n), n.self_mem_reachable path, hd⟩
      · obtain ⟨e', he', hd'⟩ := (ih e he _).1 hd
        exact ⟨e', mem_reachable_of_mem_parts he he', hd'⟩
    · rintro ⟨e, he, hd⟩
      rcases mem_reachable_iff.1 he with rfl | ⟨f, hf, he⟩
      · exact Or.inl hd
      · exact Or.inr ⟨f, hf, (ih f hf _).2 ⟨e, he, hd⟩⟩

/-! ## Nodes that are not reachable -/

/-- The flaw says that the node has more children than the check goes into. -/
def Crowding (n : Node) (f : Flaw) : Prop :=
  f = .itemCount n.children.length ∨ f = .leafChildren n.kind

/-- A child that is no part is one too many. -/
theorem mem_parts_or_crowding {n c : Node} (hc : c ∈ n.children) :
    (∃ segment, (segment, c) ∈ n.parts) ∨ ∃ f, n.HasFlaw [] f ∧ n.Crowding f := by
  rcases n.object_or_array_or_leaf with hn | hn | hn
  · exact Or.inl ⟨_, property_mem_parts hn hc⟩
  · by_cases hlength : n.children.length = 1
    · obtain ⟨item, hitem⟩ := List.length_eq_one_iff.1 hlength
      have hsame : c = item := by simpa [hitem] using hc
      exact Or.inl ⟨.items, by simp [parts_of_array hn, hitem, hsame]⟩
    · exact Or.inr ⟨_, .itemCount hn hlength, Or.inl rfl⟩
  · exact Or.inr ⟨_, .leafChildren hn (List.ne_nil_of_mem hc), Or.inr rfl⟩

/-- **A node is reachable, or it lies below a reachable one that has too many children.** -/
theorem reachable_or_below {m : Node} (n : Node) :
    ∀ path : Path, m ∈ n.subtrees → (∃ q, (q, m) ∈ n.reachable path) ∨
      ∃ e ∈ n.reachable path, m ∈ e.2.subtrees ∧ ∃ f, e.2.HasFlaw [] f ∧ e.2.Crowding f := by
  induction n using parts_induction with
  | h n ih =>
    intro path hm
    have hself := n.self_mem_reachable path
    have hsub := hm
    rw [subtrees_eq] at hm
    rcases List.mem_cons.1 hm with rfl | hm
    · exact Or.inl ⟨path, hself⟩
    · obtain ⟨c, hc, hmc⟩ := List.mem_flatMap.1 hm
      rcases mem_parts_or_crowding hc with ⟨segment, hpart⟩ | hflaw
      · rcases ih _ hpart (path.push segment) hmc with ⟨q, hq⟩ | ⟨e, he, hbelow⟩
        · exact Or.inl ⟨q, mem_reachable_of_mem_parts hpart hq⟩
        · exact Or.inr ⟨e, mem_reachable_of_mem_parts hpart he, hbelow⟩
      · exact Or.inr ⟨(path, n), hself, hsub, hflaw⟩

/-! ## The report on a tree -/

/-- **A tree passes the check exactly if it is well-formed at every node**, reachable or not. -/
theorem passes_iff_wellFormed (root : Node) :
    root.check = none ↔ ∀ n ∈ root.subtrees, n.WellFormed :=
  (check_eq_none_iff root).trans (defectsBelow_eq_nil_iff root [])

/-- **The report on a tree lists the flaws of the reachable nodes, each at its place, and nothing
else.** Any other node lies below a reachable one that is reported for having too many children. -/
theorem report_of_reachable (root : Node) :
    (∀ d, (∃ r, root.check = some r ∧ d ∈ r.toList) ↔
      ∃ e ∈ root.reachable [], ∃ q f, e.2.HasFlaw q f ∧ d = f.at (e.1 ++ q)) ∧
    ∀ n ∈ root.subtrees, (∃ path, (path, n) ∈ root.reachable []) ∨
      ∃ e ∈ root.reachable [], n ∈ e.2.subtrees ∧
        ∃ r f, root.check = some r ∧ f.at e.1 ∈ r.toList ∧ e.2.Crowding f := by
  refine ⟨fun d => mem_report_iff.trans (mem_defectsBelow_iff root []), fun n hn => ?_⟩
  refine (reachable_or_below root [] hn).imp_right ?_
  rintro ⟨e, he, hbelow, f, hf, hcrowding⟩
  have hown : OwnDefect e.1 e.2 (f.at e.1) := ⟨[], f, hf, by rw [List.append_nil]⟩
  obtain ⟨r, hr, hmem⟩ := mem_report_iff.2 ((mem_defectsBelow_iff root []).2 ⟨e, he, hown⟩)
  exact ⟨e, he, hbelow, r, f, hr, hmem, hcrowding⟩

/-- An array with a second item, an integer with decimal places. -/
def crowded : Node :=
  (ofKind .array).child (ofKind .string) |>.child ((ofKind .integer).withScale 2)

/-- The decimal places of the second item are a flaw, and the report does not mention it. -/
theorem crowded_unreported :
    (∃ n ∈ crowded.subtrees, n.HasFlaw [] (.scaleNotApplicable .integer)) ∧
      ∃ r, crowded.check = some r ∧ ∀ d ∈ r.toList, d.code ≠ "scale_not_applicable" := by
  refine ⟨⟨(ofKind .integer).withScale 2, ?_, .scaleNotApplicable rfl rfl⟩, _, rfl, by decide⟩
  exact mem_subtrees_of_mem_children (List.mem_of_getElem? (i := 1) rfl) (self_mem_subtrees _)

end Node

end SchemaTree
