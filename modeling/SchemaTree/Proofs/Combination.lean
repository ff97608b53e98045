import SchemaTree.Defect

/-!
# Reports as lists

A report is a list of defects that is not empty. It is made of a list by combining one defect after
the other, and as combining puts the lists behind each other, it is the report of the whole list in
its order.

* `toList_foldl_combine`, **`ofList?_eq_some_iff`**: the report of a list lists the list;
* `combine_assoc`, `atPath_combine`, `withCode_combine`: what combining does;
* **`Report.reports_are_nonempty_lists`**.
-/

namespace SchemaTree

namespace Report

variable {ds es : List Defect} {r s : Report}

/-! ## The report of a list -/

theorem toList_foldl_combine (ds : List Defect) (r : Report) :
    (ds.foldl (fun r d => r.combine (single d)) r).toList = r.toList ++ ds := by
  induction ds generalizing r with
  | nil => simp
  | cons d ds ih => simp [ih]

theorem toList_of_ofList? (h : ofList? ds = some r) : r.toList = ds := by
  cases ds with
  | nil => cases h
  | cons d ds =>
    obtain rfl := Option.some.inj h
    simp [toList_foldl_combine]

theorem ofList?_eq_none_iff : ofList? ds = none ↔ ds = [] := by
  cases ds <;> simp [ofList?]

/-- **A list has the report that lists it.** -/
theorem ofList?_eq_some_iff : ofList? ds = some r ↔ r.toList = ds := by
  constructor
  · exact toList_of_ofList?
  · rintro rfl
    cases h : ofList? r.toList with
    | none => cases ofList?_eq_none_iff.1 h
    | some r' => rw [toList_injective (toList_of_ofList? h)]

theorem exists_toList_eq (h : ds ≠ []) : ∃ r : Report, r.toList = ds := by
  obtain ⟨d, ds, rfl⟩ := List.exists_cons_of_ne_nil h
  exact ⟨⟨d, ds⟩, rfl⟩

/-! ## Combining -/

theorem combine_assoc (r s t : Report) : (r.combine s).combine t = r.combine (s.combine t) := by
  apply toList_injective
  simp only [toList_combine, List.append_assoc]

theorem atPath_combine (r s : Report) (path : Path) :
    (r.combine s).atPath path = r.atPath path ++ s.atPath path := by
  simp only [atPath, toList_combine, List.filter_append]

theorem withCode_combine (r s : Report) (code : String) :
    (r.combine s).withCode code = r.withCode code ++ s.withCode code := by
  simp only [withCode, toList_combine, List.filter_append]

theorem ofList?_append (hr : ofList? ds = some r) (hs : ofList? es = some s) :
    ofList? (ds ++ es) = some (r.combine s) := by
  rw [ofList?_eq_some_iff] at hr hs ⊢
  rw [toList_combine, hr, hs]

/-- **Reports are lists that are not empty.** Only the empty list has no report; that of any other
list gives the list back in its order, with its length and its first defect, and every report is
that of its list. Combining the reports of two lists gives the report of the lists behind each
other, so combining is associative, and the defects at a path or with a code are those of the one
report before those of the other. -/
theorem reports_are_nonempty_lists :
    (∀ ds, ofList? ds = none ↔ ds = []) ∧
    (∀ ds, ds ≠ [] → ∃ r, ofList? ds = some r ∧
      r.toList = ds ∧ r.size = ds.length ∧ ds.head? = some r.head) ∧
    (∀ r : Report, ofList? r.toList = some r) ∧
    (∀ ds es, ds ≠ [] → es ≠ [] → ∃ r s, ofList? ds = some r ∧ ofList? es = some s ∧
      ofList? (ds ++ es) = some (r.combine s)) ∧
    (∀ r s t : Report, (r.combine s).combine t = r.combine (s.combine t)) ∧
    (∀ (r s : Report) (path : Path),
      (r.combine s).atPath path = r.atPath path ++ s.atPath path) ∧
    ∀ (r s : Report) (code : String),
      (r.combine s).withCode code = r.withCode code ++ s.withCode code := by
  refine ⟨fun ds => ofList?_eq_none_iff, fun ds hds => ?_, fun r => ofList?_eq_some_iff.2 rfl,
    fun ds es hds hes => ?_, combine_assoc, atPath_combine, withCode_combine⟩
  · obtain ⟨r, rfl⟩ := exists_toList_eq hds
    exact ⟨r, ofList?_eq_some_iff.2 rfl, rfl, rfl, rfl⟩
  · obtain ⟨r, hr⟩ := exists_toList_eq hds
    obtain ⟨s, hs⟩ := exists_toList_eq hes
    rw [← ofList?_eq_some_iff] at hr hs
    exact ⟨r, s, hr, hs, ofList?_append hr hs⟩

/-- Two properties of one name, and the root with children that it must not have. -/
def mixedDefects : List Defect × List Defect :=
  let twice := (Flaw.duplicateProperty "id").at [.property "id"]
  ([twice, (Flaw.leafChildren .string).at []], [twice])

/-- The repeated defect is there twice, once from each list. -/
theorem mixedDefects_combined :
    mixedDefects.1 ≠ [] ∧ mixedDefects.2 ≠ [] ∧
      ∃ r s, ofList? mixedDefects.1 = some r ∧ ofList? mixedDefects.2 = some s ∧
        (r.combine s).size = 3 ∧ (r.combine s).head = r.head ∧
        (r.combine s).withCode "duplicate_property" =
          r.withCode "duplicate_property" ++ s.withCode "duplicate_property" ∧
        ((r.combine s).withCode "duplicate_property").length = 2 := by
  obtain ⟨-, hread, -, happend, -, -, hcode⟩ := reports_are_nonempty_lists
  have hne : mixedDefects.1 ≠ [] ∧ mixedDefects.2 ≠ [] := by decide
  obtain ⟨r, s, hr, hs, hrs⟩ := happend _ _ hne.1 hne.2
  obtain ⟨t, ht, -, hsize, -⟩ := hread (mixedDefects.1 ++ mixedDefects.2) (by decide)
  obtain rfl : r.combine s = t := Option.some.inj (hrs.symm.trans ht)
  refine ⟨hne.1, hne.2, r, s, hr, hs, hsize, rfl, hcode r s _, ?_⟩
  cases hr
  cases hs
  rfl

end Report

end SchemaTree
