import SchemaTree.Proofs.Failure
import SchemaTree.Proofs.Log
import SchemaTree.Proofs.Referenced

/-!
# The log tells the truth

A document holds a reference wherever the log reports one, unless the keywords around it have been
thrown away. Where nothing is thrown away the log can be counted: it has one line for every
definition and one for every reference.

* `Json.holders`: how often schemas hold a reference, with `holders_singleton` for subschemas;
* `Node.keys_finish_of_unnested`: all objects that are reported as converted become definitions;
* `Profile.siteSchemas`, `Profile.bodySchemas`, `Profile.holders_body`: references in sites and in
  definitions;
* **`Profile.count_log`**: what is reported of a node is held in its site and in new definitions;
* `Json.allPositions`: the schema positions of a document, those of its definitions included;
* **`Profile.log_tells_the_truth`**.
-/

namespace SchemaTree

open OrderedMap

namespace Json

/-! ## Holders of a reference -/

/-- The schema is a reference to the definition of a name, or has one beside other keywords. -/
def Holds (v : Json) (name : String) : Prop :=
  v.member? "$ref" = some (.string (Keywords.definitionPointer name))

instance (v : Json) (name : String) : Decidable (v.Holds name) :=
  inferInstanceAs (Decidable (_ = _))

/-- How many schemas at the positions of some schemas hold a reference to a definition. -/
def holders (vs : List Json) (name : String) : Nat :=
  (vs.flatMap fun v => v.positions []).countP fun e => e.2.Holds name

theorem holders_nil (name : String) : holders [] name = 0 := rfl

theorem holders_append (vs ws : List Json) (name : String) :
    holders (vs ++ ws) name = holders vs name + holders ws name := by
  rw [holders, List.flatMap_append, List.countP_append]
  rfl

theorem holders_cons (v : Json) (vs : List Json) (name : String) :
    holders (v :: vs) name = holders [v] name + holders vs name :=
  holders_append [v] vs name

theorem holders_singleton (v : Json) (name : String) :
    holders [v] name =
      (if v.Holds name then 1 else 0) + holders (v.subschemas.map Prod.snd) name := by
  have hpath (w : Json) (path : Path) : (w.positions path).countP (fun e => e.2.Holds name) =
      (w.positions []).countP fun e => e.2.Holds name := by
    have h := positions_append path w []
    rw [List.append_nil] at h
    rw [h, List.countP_map]
    rfl
  rw [holders, holders, List.flatMap_singleton, positions_eq, List.countP_cons, List.flatMap_map,
    List.countP_flatMap, List.countP_flatMap, Nat.add_comm]
  simp only [Function.comp_def, hpath, decide_eq_true_eq]

theorem holders_append_of_plain (k : Keywords) {k' : Keywords} (h : Plain k') (name : String) :
    holders [.object (k ++ k')] name = holders [.object k] name := by
  have hnone : get? k' "$ref" = none :=
    (get?_eq_none_iff k' _).2 fun hmem => (h _ hmem).1 rfl
  have hholds : Holds (.object (k ++ k')) name ↔ Holds (.object k) name := by
    rw [Holds, member?, get?_append, hnone, Option.or_none]
    rfl
  rw [holders_singleton, holders_singleton (.object k), subschemas_append, subschemas_of_plain h,
    List.append_nil]
  simp only [hholds]

theorem holders_reference (name name' : String) :
    holders [.object (Keywords.reference name')] name = if name' = name then 1 else 0 := by
  have hholds : Holds (.object (Keywords.reference name')) name ↔ name' = name := by
    change some (Json.string (Keywords.definitionPointer name')) = some (.string _) ↔ _
    rw [Option.some_inj, Json.string.injEq]
    exact ⟨fun h => Keywords.definitionPointer_injective h, fun h => h ▸ rfl⟩
  have hbelow : subschemas (.object (Keywords.reference name')) = [] := rfl
  rw [holders_singleton, hbelow, List.map_nil, holders_nil, Nat.add_zero]
  simp only [hholds]

end Json

/-! ## Objects that are reported -/

namespace Node

theorem keys_finishParts_of_unnested {parts : List (Segment × Node)}
    (h : ∀ e ∈ parts, ∀ F path,
      keys (finish F e.2) = keys F ++ (log F path e.2).filterMap Event.cachedName?) (path : Path) :
    ∀ F, keys (finishParts F parts) =
      keys F ++ (logParts F path parts).filterMap Event.cachedName? := by
  induction parts with
  | nil => exact fun F => (List.append_nil _).symm
  | cons e parts ih =>
    intro F
    obtain ⟨he, hparts⟩ := List.forall_mem_cons.1 h
    change keys (finishParts (finish F e.2) parts) = _
    rw [ih hparts, he F (path.push e.1), logParts, List.filterMap_append, List.append_assoc]

/-- **Without objects inside others of their name, all objects that are reported as converted become
definitions.** -/
theorem keys_finish_of_unnested (n : Node) : n.Unnested → ∀ F path,
    keys (finish F n) = keys F ++ (log F path n).filterMap Event.cachedName? := by
  induction n using parts_induction with
  | h n ih =>
    intro hnested F path
    have hparts := keys_finishParts_of_unnested (fun e he =>
      ih e he (hnested.of_mem_children (mem_children_of_mem_parts he))) path F
    cases hname : n.objectName? with
    | none => rw [finish_of_none hname, log_of_none hname, hparts]
    | some name =>
      by_cases hfinished : name ∈ keys F
      · rw [finish_of_finished hname hfinished, log_of_finished hname hfinished]
        exact (List.append_nil _).symm
      · have hkeys : keys (finishParts F n.parts ++ [(name, n)]) =
            keys (finishParts F n.parts) ++ [name] := List.map_append
        rw [Profile.finish_of_unnested hnested hname hfinished, log_of_unfinished hname hfinished,
          hkeys, hparts, List.filterMap_append, List.append_assoc]
        rfl

end Node

namespace Profile

/-! ## Counting references -/

section

variable (p : Profile) (name : String)

/-- What stands for some parts. -/
def siteSchemas (parts : List (Segment × Node)) : List Json :=
  parts.map fun e => .object (p.site e.2)

/-- The definitions of finished objects, without their names. -/
def bodySchemas (F : Node.Finished) : List Json := F.map fun e => .object (p.body e.2)

/-- How often a reference to a type is reported. -/
def reported (es : List Event) : Nat := (es.filterMap Event.referencedName?).count name

theorem reported_append (es fs : List Event) :
    reported name (es ++ fs) = reported name es + reported name fs := by
  rw [reported, List.filterMap_append, List.count_append]
  rfl

theorem reported_reference (name' : String) (path : Path) :
    reported name [.emittingReference name' path] = if name' = name then 1 else 0 := by
  change [name'].count name = _
  rw [List.count_singleton]
  simp only [beq_iff_eq]

theorem holders_body {n : Node} (hn : n.WellFormed) :
    Json.holders [.object (p.body n)] name = Json.holders (p.siteSchemas n.parts) name := by
  have hnone : Json.member? (.object (p.body n)) "$ref" = none := by
    rw [body_eq, assemble, Json.member?, get?_eq_none_iff, keys, List.map_append, List.mem_append]
    rintro (hmem | hmem)
    · exact (plain_ownKeywords p n _ hmem).1 rfl
    · exact not_mem_keys_partKeywords (by decide) hmem
  have hholds : ¬ Json.Holds (.object (p.body n)) name := by
    rw [Json.Holds, hnone]
    exact fun h => by cases h
  rw [Json.holders_singleton, if_neg hholds, body_eq, subschemas_assemble hn, List.map_map,
    Nat.zero_add]
  rfl

theorem count_logParts {parts : List (Segment × Node)}
    (h : ∀ e ∈ parts, ∀ F path,
      reported name (Node.log F path e.2) + Json.holders (p.bodySchemas F) name =
        Json.holders [.object (p.site e.2)] name +
          Json.holders (p.bodySchemas (Node.finish F e.2)) name) (path : Path) :
    ∀ F, reported name (Node.logParts F path parts) + Json.holders (p.bodySchemas F) name =
      Json.holders (p.siteSchemas parts) name +
        Json.holders (p.bodySchemas (Node.finishParts F parts)) name := by
  induction parts with
  | nil => exact fun F => rfl
  | cons e parts ih =>
    intro F
    obtain ⟨he, hparts⟩ := List.forall_mem_cons.1 h
    have hhead := he F (path.push e.1)
    have hrest := ih hparts (Node.finish F e.2)
    have hlog := reported_append name (Node.log F (path.push e.1) e.2)
      (Node.logParts (Node.finish F e.2) path parts)
    have hsites : Json.holders (p.siteSchemas (e :: parts)) name =
        Json.holders [.object (p.site e.2)] name + Json.holders (p.siteSchemas parts) name :=
      Json.holders_cons _ _ name
    have hfinish : Node.finishParts F (e :: parts) = Node.finishParts (Node.finish F e.2) parts := rfl
    rw [Node.logParts, hlog, hsites, hfinish]
    omega

/-- **The references that are reported of a node are those in its site and in new definitions.** -/
theorem count_log (n : Node) : (∀ m ∈ n.subtrees, m.WellFormed) → n.Unnested → ∀ F path,
    reported name (Node.log F path n) + Json.holders (p.bodySchemas F) name =
      Json.holders [.object (p.site n)] name +
        Json.holders (p.bodySchemas (Node.finish F n)) name := by
  induction n using Node.parts_induction with
  | h n ih =>
    intro hformed hnested F path
    have hn := hformed n n.self_mem_subtrees
    have hbody := p.holders_body name hn
    have hparts := p.count_logParts name (fun e he =>
      ih e he ((hn.forall_mem_subtrees.1 hformed).2 e he)
        (hnested.of_mem_children (Node.mem_children_of_mem_parts he))) path F
    cases hname : n.objectName? with
    | none =>
      rw [Node.log_of_none hname, Node.finish_of_none hname, site_of_none hname, hbody]
      exact hparts
    | some name' =>
      rw [site_of_some hname, Json.holders_reference]
      by_cases hfinished : name' ∈ keys F
      · rw [Node.log_of_finished hname hfinished, Node.finish_of_finished hname hfinished,
          reported_reference]
      · have hbodies : Json.holders (p.bodySchemas (Node.finish F n)) name =
            Json.holders (p.bodySchemas (Node.finishParts F n.parts)) name +
              Json.holders [.object (p.body n)] name := by
          rw [finish_of_unnested hnested hname hfinished, bodySchemas, List.map_append,
            Json.holders_append]
          rfl
        have hlog : reported name (Node.log F path n) =
            reported name (Node.logParts F path n.parts) + if name' = name then 1 else 0 := by
          rw [Node.log_of_unfinished hname hfinished, reported_append]
          exact congrArg _ (reported_reference name name' path)
        rw [hlog, hbodies, hbody]
        omega

end

end Profile

/-! ## Documents -/

/-- The schema positions of a document and then those of its definitions, with their paths in the
schema that they belong to. -/
def Json.allPositions (document : Json) : List (Path × Json) :=
  document.positions [] ++ document.definitions.flatMap fun e => e.2.positions []

namespace Profile

variable {p : Profile} {root : Node} {dialect : Option String} {document : Json}

theorem countP_generate (h : (p.generator true dialect).generate root = .ok document)
    (name : String) : (document.allPositions.countP fun e => e.2.Holds name) =
      Json.holders [.object (p.site root)] name +
        Json.holders (p.bodySchemas (Node.finish [] root)) name := by
  have hdefinitions : (document.definitions.flatMap fun e => e.2.positions []) =
      (p.bodySchemas (Node.finish [] root)).flatMap fun v => v.positions [] := by
    rw [definitions_generate h, schemasOf, bodySchemas, List.flatMap_map, List.flatMap_map]
    rfl
  have hroot : Json.holders [document] name = Json.holders [.object (p.site root)] name := by
    obtain ⟨-, -, hdocument⟩ := generate_eq h
    rw [hdocument, Json.holders_append_of_plain _ (Json.plain_dialectEntry dialect),
      Json.holders_append_of_plain _ (Json.plain_definitionsEntry _)]
  rw [Json.allPositions, List.countP_append, hdefinitions, ← hroot, Json.holders, Json.holders,
    List.flatMap_singleton]

variable (p root dialect)

/-- **The log tells the truth.** A conversion that fails reports its error as the last thing, and
nothing else is reported as a failure. With definitions, the types that are reported as converted are
those of the definitions, in their order, and a reference is reported only after an object of its
type. In a tree that passes the check and has no object inside another one of its type name, every
definition is reported once, and a reference as often as the document holds it. -/
theorem log_tells_the_truth :
    (∀ extracts e, (p.generator extracts dialect).generate root = .error e →
      ∃ earlier, (p.generator extracts dialect).events root =
        earlier ++ [.noConverter e.kind e.path] ∧ Unfailing earlier) ∧
    (∀ extracts document, (p.generator extracts dialect).generate root = .ok document →
      Unfailing ((p.generator extracts dialect).events root)) ∧
    ∀ document, (p.generator true dialect).generate root = .ok document →
      (((p.generator true dialect).events root).filterMap Event.cachedName?).eraseDups =
        keys document.definitions ∧
      Announced [] ((p.generator true dialect).events root) ∧
      (root.check = none → root.Unnested →
        (∀ name ∈ keys document.definitions,
          (((p.generator true dialect).events root).filterMap Event.cachedName?).count name = 1) ∧
        ∀ name, (((p.generator true dialect).events root).filterMap Event.referencedName?).count
          name = document.allPositions.countP fun e => e.2.Holds name) := by
  refine ⟨fun extracts e h => events_of_error h, fun extracts document h => unfailing_events h,
    fun document h => ?_⟩
  have hnodup : (keys ([] : Node.Finished)).Nodup := List.nodup_nil
  have hfinished : keys document.definitions = keys (Node.finish [] root) := by
    rw [definitions_generate h, schemasOf, keys_map]
  rw [events_generate h, hfinished]
  refine ⟨(root.keys_finish [] [] hnodup).symm, root.announced_log [] [] hnodup,
    fun hcheck hnested => ⟨fun name hname => ?_, fun name => ?_⟩⟩
  · have hkeys : keys (Node.finish [] root) =
        (Node.log [] [] root).filterMap Event.cachedName? :=
      root.keys_finish_of_unnested hnested [] []
    rw [← hkeys]
    exact List.count_eq_one_of_mem (root.nodup_keys_finish hnodup) hname
  · have hformed := (root.defectsBelow_eq_nil_iff []).1 (root.check_eq_none_iff.1 hcheck)
    rw [countP_generate h]
    exact p.count_log name root hformed hnested [] []

/-- In the log of a parcel the type of both parties is defined once and referred to twice; that of an
invoice ends with its failure. -/
theorem parcel_logged :
    (∃ document, (swagger2.generator true none).generate parcel = .ok document ∧
      keys document.definitions = ["Address", "Party", "Stop"] ∧
      (((swagger2.generator true none).events parcel).filterMap Event.cachedName?).count "Party" = 1 ∧
      (document.allPositions.countP fun e => e.2.Holds "Party") = 2 ∧
      Announced [] ((swagger2.generator true none).events parcel) ∧
      Unfailing ((swagger2.generator true none).events parcel)) ∧
    ∃ earlier, (swagger2.generator false none).events invoice =
      earlier ++ [.noConverter .money [.property "prices", .items]] ∧ Unfailing earlier := by
  obtain ⟨document, h⟩ : ∃ document,
      (swagger2.generator true none).generate parcel = .ok document := ⟨_, rfl⟩
  have hkeys : keys document.definitions = ["Address", "Party", "Stop"] := by
    cases h
    rfl
  obtain ⟨-, hunfailing, hlog⟩ := log_tells_the_truth swagger2 parcel none
  obtain ⟨-, hannounced, hcounts⟩ := hlog document h
  obtain ⟨honce, hreferences⟩ := hcounts rfl (by decide)
  obtain ⟨hfailing, -, -⟩ := log_tells_the_truth swagger2 invoice none
  refine ⟨⟨document, h, hkeys, honce "Party" (by rw [hkeys]; decide), ?_, hannounced,
    hunfailing true document h⟩, hfailing false ⟨.money, [.property "prices", .items]⟩ rfl⟩
  rw [← hreferences]
  rfl

end Profile

end SchemaTree
