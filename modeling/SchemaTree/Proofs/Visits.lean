import SchemaTree.Proofs.Log

/-!
# The nodes that a conversion comes to

With definitions, a conversion does not go below an object whose type has a definition. What it
comes to therefore depends on what it has finished before. The **visits** of a tree list the nodes
in the order in which the conversion is done with them; the only thing that is handed on from one
to the next is which names have an entry.

* `Visit`, with `Visit.name?` and `Visit.report`;
* `Node.visits`, with `visits_of_none`, `visits_of_known` and `visits_of_new`;
* **`Node.finish_eq_visits`**: visited objects are finished, the first one of each name for good;
* **`Node.log_eq_visits`**: what is reported is what the visits report;
* `Node.converted_of_firstVisit?`: the first visit of a name goes below the node.
-/

namespace SchemaTree

open OrderedMap

/-- A node that a conversion comes to, at a path. -/
structure Visit where
  path : Path
  node : Node
  /-- Whether the conversion goes below the node. -/
  converted : Bool

namespace Visit

variable (v : Visit)

/-- The type name under which the node is shared. -/
def name? : Option String := v.node.objectName?

/-- What is reported about the node: its conversion, and the reference to it. -/
def report : List Event :=
  match v.name? with
  | none => []
  | some name =>
    if v.converted then [.cachingDefinition name v.path, .emittingReference name v.path]
    else [.emittingReference name v.path]

end Visit

namespace Node

mutual

/-- The nodes from a node at `path` on, each behind those below it, if the names in `known` have
entries. What is below a node of a known name is passed over. -/
def visits (known : List String) (path : Path) : Node → List Visit
  | mk a children =>
    let below := if a.kind.isObject then visitsOfProperties known path children
      else if a.kind.isArray then visitsOfItem known path children
      else []
    match (mk a children).objectName? with
    | none => below ++ [⟨path, mk a children, true⟩]
    | some name =>
      if name ∈ known then [⟨path, mk a children, false⟩] else below ++ [⟨path, mk a children, true⟩]

/-- The nodes from the properties of an object at `path` on. -/
def visitsOfProperties (known : List String) (path : Path) : List Node → List Visit
  | [] => []
  | c :: cs =>
    let first := visits known (path.push (.property c.name)) c
    first ++ visitsOfProperties (known ++ first.filterMap Visit.name?) path cs

/-- The nodes from the item of an array at `path` on. -/
def visitsOfItem (known : List String) (path : Path) : List Node → List Visit
  | [] => []
  | c :: _ => visits known (path.push .items) c

end

/-- The nodes from some parts of a node at `path` on. -/
def visitsOfParts (known : List String) (path : Path) : List (Segment × Node) → List Visit
  | [] => []
  | e :: parts =>
    let first := visits known (path.push e.1) e.2
    first ++ visitsOfParts (known ++ first.filterMap Visit.name?) path parts

theorem visitsOfProperties_eq (known : List String) (path : Path) (cs : List Node) :
    visitsOfProperties known path cs =
      visitsOfParts known path (cs.map fun c => (.property c.name, c)) := by
  induction cs generalizing known with
  | nil => rfl
  | cons c cs ih => rw [visitsOfProperties, ih]; rfl

theorem visits_eq (known : List String) (path : Path) (n : Node) :
    visits known path n =
      match n.objectName? with
      | none => visitsOfParts known path n.parts ++ [⟨path, n, true⟩]
      | some name =>
        if name ∈ known then [⟨path, n, false⟩]
        else visitsOfParts known path n.parts ++ [⟨path, n, true⟩] := by
  have hbelow : (if n.kind.isObject then visitsOfProperties known path n.children
      else if n.kind.isArray then visitsOfItem known path n.children else []) =
      visitsOfParts known path n.parts := by
    rcases n.object_or_array_or_leaf with hn | hn | hn
    · rw [parts_of_object hn, ← visitsOfProperties_eq, hn]
      rfl
    · rw [parts_of_array hn, hn]
      cases n.children with
      | nil => rfl
      | cons c cs => exact (List.append_nil _).symm
    · have hkind : n.kind.isObject = false ∧ n.kind.isArray = false := by
        simpa [Kind.isLeaf] using hn
      rw [parts_of_leaf hn]
      simp [hkind, visitsOfParts]
  rw [← hbelow]
  obtain ⟨a, children⟩ := n
  rw [visits]
  rfl

section

variable {known : List String} {n : Node} {name : String}

theorem visits_of_none (h : n.objectName? = none) (known : List String) (path : Path) :
    visits known path n = visitsOfParts known path n.parts ++ [⟨path, n, true⟩] := by
  rw [visits_eq, h]

theorem visits_of_known (h : n.objectName? = some name) (hknown : name ∈ known) (path : Path) :
    visits known path n = [⟨path, n, false⟩] := by
  rw [visits_eq, h]
  exact if_pos hknown

theorem visits_of_new (h : n.objectName? = some name) (hknown : name ∉ known) (path : Path) :
    visits known path n = visitsOfParts known path n.parts ++ [⟨path, n, true⟩] := by
  rw [visits_eq, h]
  exact if_neg hknown

end

/-! ## Visits and finished objects -/

/-- The known names are those of the finished objects. -/
def Knows (known : List String) (F : Finished) : Prop := ∀ name, name ∈ known ↔ name ∈ keys F

/-- The objects of some visits are finished behind `F`. -/
def finishVisits (F : Finished) (vs : List Visit) : Finished :=
  (vs.map Visit.node).foldl keepFirst F

theorem finishVisits_append (F : Finished) (vs ws : List Visit) :
    finishVisits F (vs ++ ws) = finishVisits (finishVisits F vs) ws := by
  rw [finishVisits, List.map_append, List.foldl_append]
  rfl

theorem Knows.append {known : List String} {F : Finished} (h : Knows known F) (vs : List Visit) :
    Knows (known ++ vs.filterMap Visit.name?) (finishVisits F vs) := by
  intro name
  rw [List.mem_append, List.mem_filterMap, finishVisits, mem_keys_foldl_keepFirst, h name]
  simp [Visit.name?]

theorem finishParts_eq_visits {parts : List (Segment × Node)}
    (h : ∀ e ∈ parts, ∀ F known path, Knows known F →
      finish F e.2 = finishVisits F (visits known path e.2))
    (path : Path) : ∀ F known, Knows known F →
      finishParts F parts = finishVisits F (visitsOfParts known path parts) := by
  induction parts with
  | nil => exact fun F known _ => rfl
  | cons e parts ih =>
    intro F known hknown
    obtain ⟨he, hparts⟩ := List.forall_mem_cons.1 h
    have hfirst := he F known (path.push e.1) hknown
    have hrest := ih hparts _ _ (hknown.append (visits known (path.push e.1) e.2))
    rw [visitsOfParts, finishVisits_append, ← hrest, ← hfirst]
    rfl

/-- **What is finished are the visited objects**, and the first one of each name keeps the name. -/
theorem finish_eq_visits (n : Node) : ∀ F known path, Knows known F →
    finish F n = finishVisits F (visits known path n) := by
  induction n using parts_induction with
  | h n ih =>
    intro F known path hknown
    have hparts := finishParts_eq_visits ih path F known hknown
    have hlast : finishVisits F (visitsOfParts known path n.parts ++ [⟨path, n, true⟩]) =
        keepFirst (finishParts F n.parts) n := by
      rw [finishVisits_append, ← hparts]
      rfl
    cases hname : n.objectName? with
    | none => rw [finish_of_none hname, visits_of_none hname, hlast, keepFirst_of_none hname]
    | some name =>
      by_cases hfinished : name ∈ keys F
      · rw [finish_of_finished hname hfinished, visits_of_known hname ((hknown name).2 hfinished)]
        change F = keepFirst F n
        rw [keepFirst_of_some hname, insertIfNew_of_mem hfinished]
      · rw [finish_of_unfinished hname hfinished,
          visits_of_new hname (mt (hknown name).1 hfinished), hlast, keepFirst_of_some hname]

theorem knows_finish {known : List String} {F : Finished} (h : Knows known F) (path : Path)
    (n : Node) : Knows (known ++ (visits known path n).filterMap Visit.name?) (finish F n) := by
  rw [finish_eq_visits n F known path h]
  exact h.append _

/-! ## Visits and what is reported -/

theorem logParts_eq_visits {parts : List (Segment × Node)}
    (h : ∀ e ∈ parts, ∀ F known path, Knows known F →
      log F path e.2 = (visits known path e.2).flatMap Visit.report)
    (path : Path) : ∀ F known, Knows known F →
      logParts F path parts = (visitsOfParts known path parts).flatMap Visit.report := by
  induction parts with
  | nil => exact fun F known _ => rfl
  | cons e parts ih =>
    intro F known hknown
    obtain ⟨he, hparts⟩ := List.forall_mem_cons.1 h
    have hrest := ih hparts _ _ (knows_finish hknown (path.push e.1) e.2)
    rw [logParts, visitsOfParts, List.flatMap_append, he F known _ hknown, hrest]

/-- **What is reported is what the visits report.** -/
theorem log_eq_visits (n : Node) : ∀ F known path, Knows known F →
    log F path n = (visits known path n).flatMap Visit.report := by
  induction n using parts_induction with
  | h n ih =>
    intro F known path hknown
    have hparts := logParts_eq_visits ih path F known hknown
    cases hname : n.objectName? with
    | none =>
      rw [log_of_none hname, visits_of_none hname, List.flatMap_append, ← hparts]
      simp [Visit.report, Visit.name?, hname]
    | some name =>
      by_cases hfinished : name ∈ keys F
      · rw [log_of_finished hname hfinished, visits_of_known hname ((hknown name).2 hfinished)]
        simp [Visit.report, Visit.name?, hname]
      · rw [log_of_unfinished hname hfinished,
          visits_of_new hname (mt (hknown name).1 hfinished), List.flatMap_append, ← hparts]
        simp [Visit.report, Visit.name?, hname]

/-! ## The first visit of a name -/

/-- The first of some visits that is one of the name. -/
def firstVisit? (vs : List Visit) (name : String) : Option Visit :=
  vs.find? fun v => v.name? = some name

theorem firstVisit?_append (vs ws : List Visit) (name : String) :
    firstVisit? (vs ++ ws) name = (firstVisit? vs name).or (firstVisit? ws name) :=
  List.find?_append

theorem firstVisit?_eq_none {vs : List Visit} {name : String} (h : firstVisit? vs name = none) :
    name ∉ vs.filterMap Visit.name? := by
  intro hmem
  obtain ⟨v, hv, hname⟩ := List.mem_filterMap.1 hmem
  exact absurd (decide_eq_true hname) (List.find?_eq_none.1 h v hv)

theorem converted_of_firstVisit?_parts {parts : List (Segment × Node)} {name : String} {v : Visit}
    (h : ∀ e ∈ parts, ∀ known path, name ∉ known →
      firstVisit? (visits known path e.2) name = some v → v.converted = true)
    (path : Path) : ∀ known, name ∉ known →
      firstVisit? (visitsOfParts known path parts) name = some v → v.converted = true := by
  induction parts with
  | nil => exact fun _ _ hv => by cases hv
  | cons e parts ih =>
    intro known hknown hv
    obtain ⟨he, hparts⟩ := List.forall_mem_cons.1 h
    rw [visitsOfParts, firstVisit?_append] at hv
    cases hfirst : firstVisit? (visits known (path.push e.1) e.2) name with
    | some w =>
      rw [hfirst, Option.some_or] at hv
      obtain rfl := Option.some.inj hv
      exact he known _ hknown hfirst
    | none =>
      rw [hfirst, Option.none_or] at hv
      refine ih hparts _ ?_ hv
      rw [List.mem_append, not_or]
      exact ⟨hknown, firstVisit?_eq_none hfirst⟩

/-- **The first visit of a name goes below the node.** -/
theorem converted_of_firstVisit? (n : Node) {name : String} {v : Visit} : ∀ known path,
    name ∉ known → firstVisit? (visits known path n) name = some v → v.converted = true := by
  induction n using parts_induction with
  | h n ih =>
    intro known path hknown hv
    have hlast (hw : firstVisit? (visitsOfParts known path n.parts ++ [⟨path, n, true⟩]) name =
        some v) : v.converted = true := by
      rw [firstVisit?_append] at hw
      rcases Option.or_eq_some_iff.1 hw with hw | ⟨-, hw⟩
      · exact converted_of_firstVisit?_parts ih path known hknown hw
      · obtain rfl := List.mem_singleton.1 (List.mem_of_find?_eq_some hw)
        rfl
    cases hname : n.objectName? with
    | none =>
      rw [visits_of_none hname] at hv
      exact hlast hv
    | some name' =>
      by_cases hknown' : name' ∈ known
      · rw [visits_of_known hname hknown'] at hv
        have hfound := List.find?_some hv
        obtain rfl := List.mem_singleton.1 (List.mem_of_find?_eq_some hv)
        have hsame : some name' = some name := hname ▸ of_decide_eq_true hfound
        rw [Option.some.inj hsame] at hknown'
        exact absurd hknown' hknown
      · rw [visits_of_new hname hknown'] at hv
        exact hlast hv

end Node

end SchemaTree
