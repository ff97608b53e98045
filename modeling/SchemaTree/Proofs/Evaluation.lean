import SchemaTree.Proofs.Dereference
import SchemaTree.Proofs.Growth

/-!
# Following pointers

A pointer begins with a number sign; behind it stands, after a slash each, what leads one step
further into a document: the escaped name of a member or the number of an element. An escaped name
has no slash, so the pointer to a definition has exactly two steps, and the second one is read as
the name of the type, whatever its characters are.

* `Json.step?`, `Json.pointee?`: what a pointer leads to; **`pointee?_definitionPointer`**;
* `Generator.pointee?_generate`: the definitions of a document are where their pointers lead;
* **`Generator.definition_pointers_say_names`**.
-/

namespace SchemaTree

open OrderedMap

namespace Json

open Keywords

/-! ## Pointers -/

/-- The number of an element, as a pointer writes it: without further zeros in front. -/
def elementNumber? (token : String) : Option Nat :=
  token.toNat?.filter fun i => toString i = token

/-- What one step of a pointer leads to. -/
def step? : Json → String → Option Json
  | .object members, token => get? members token
  | .array elements, token => (elementNumber? token).bind fun i => elements[i]?
  | _, _ => none

/-- The steps of a pointer. -/
def pointerSteps? (pointer : String) : Option (List String) :=
  match pointer.toList.splitOn '/' with
  | ['#'] :: tokens => some (tokens.map fun token => unescapePointer (String.ofList token))
  | _ => none

/-- What a pointer leads to in a document. -/
def pointee? (document : Json) (pointer : String) : Option Json :=
  (pointerSteps? pointer).bind fun steps => steps.foldlM step? document

theorem pointerSteps?_definitionPointer (name : String) :
    pointerSteps? (definitionPointer name) = some ["definitions", name] := by
  have hlist : (definitionPointer name).toList =
      ['#'] ++ '/' :: ("definitions".toList ++ '/' :: (escapePointer name).toList) := by
    simp [definitionPointer]
  have hsplit : (definitionPointer name).toList.splitOn '/' =
      [['#'], "definitions".toList, (escapePointer name).toList] := by
    rw [hlist, List.splitOn_append_cons_self_of_not_mem (by decide),
      List.splitOn_append_cons_self_of_not_mem (by decide),
      List.splitOn_eq_singleton (slash_not_mem_escapePointer name)]
  have hkey : unescapePointer "definitions" = "definitions" := by decide
  rw [pointerSteps?, hsplit]
  simp only [List.map_cons, List.map_nil, String.ofList_toList, hkey, unescapePointer_escapePointer]

/-- **The pointer to the definition of a name leads to the member of that name among the
definitions.** -/
theorem pointee?_definitionPointer (document : Json) (name : String) :
    document.pointee? (definitionPointer name) =
      (document.step? "definitions").bind fun v => v.step? name := by
  rw [pointee?, pointerSteps?_definitionPointer]
  simp

end Json

namespace Generator

open Keywords

variable {g : Generator} {root : Node} {document : Json}

/-! ## Documents -/

theorem get?_document (g : Generator) (k : Keywords) {defs : OrderedMap String Json}
    (hdefs : defs ≠ []) : get? (g.document k defs) "definitions" = some (.object defs) := by
  have hinsert : (if defs.isEmpty then k
      else OrderedMap.insert k "definitions" (.object defs)) =
        OrderedMap.insert k "definitions" (.object defs) :=
    if_neg (by simpa using hdefs)
  unfold document
  rw [hinsert]
  cases g.dialect with
  | none => simp [get?_insert]
  | some d => simp [stamp, get?_insert]

/-- A document that is not null is made of the keywords of its root and the definitions that are
shared in the end. -/
theorem exists_document (h : g.generate root = .ok document) (hnull : document ≠ .null) :
    ∃ k, document = .object (g.document k (g.run root).2.sharedSchemas) := by
  unfold generate at h
  rcases hr : g.run root with ⟨e | _ | k, t⟩ <;> rw [hr] at h <;> cases h
  · exact absurd rfl hnull
  · exact ⟨k, rfl⟩

theorem nodup_definitions_run (g : Generator) (root : Node) :
    (keys (g.run root).2.definitions).Nodup :=
  (g.growsThrough_resolve root [] {}).whole.nodup (by simp [keys])

/-- **A pointer to a definition leads to the one under the raw name**, and that is what the name
stood for in the end. -/
theorem pointee?_generate (h : g.generate root = .ok document) (hnull : document ≠ .null)
    (hdefs : (g.run root).2.sharedSchemas ≠ []) (name : String) :
    document.pointee? (definitionPointer name) = get? document.definitions name ∧
      get? document.definitions name = ((g.run root).2.definition? name).map .object := by
  obtain ⟨k, rfl⟩ := exists_document h hnull
  have hdefinitions : Json.definitions (.object (g.document k (g.run root).2.sharedSchemas)) =
      (g.run root).2.sharedSchemas := by
    rw [Json.definitions, Json.member?, g.get?_document k hdefs]
  rw [hdefinitions, get?_sharedSchemas (g.nodup_definitions_run root), Json.pointee?_definitionPointer,
    Json.step?, g.get?_document k hdefs, Option.bind_some, Json.step?,
    get?_sharedSchemas (g.nodup_definitions_run root)]
  exact ⟨rfl, rfl⟩

theorem exists_of_mem_events {name : String} {path : Path}
    (h : .emittingReference name path ∈ g.events root) :
    ∃ k, (g.run root).2.definition? name = some k := by
  obtain ⟨later, hevents, hlater⟩ := (g.growsThrough_resolve root [] {}).whole.events
  rw [events, run, hevents, List.nil_append] at h
  exact Option.isSome_iff_exists.1 (hlater name path h)

theorem sharedSchemas_ne_nil {name : String} {k : Keywords}
    (h : (g.run root).2.definition? name = some k) : (g.run root).2.sharedSchemas ≠ [] := by
  intro hnil
  have hget := get?_sharedSchemas (g.nodup_definitions_run root) name
  rw [hnil, h] at hget
  cases hget

/-- **Pointers to definitions say their names.** In the pointer, the name is written by two
replacements, without slashes and with a digit that is `0` or `1` behind each tilde; read back it is
the name, so different names have different pointers. In every document with definitions, the pointer
leads to the definition under the name as it is, and the pointer of a reference that was written
leads to a schema. -/
theorem definition_pointers_say_names (name : String) :
    definitionPointer name = pointerPrefix ++ escapePointer name ∧
    (escapePointer name).toList =
      replaceChar '/' ['~', '1'] (replaceChar '~' ['~', '0'] name.toList) ∧
    '/' ∉ (escapePointer name).toList ∧
    (∀ before after, (escapePointer name).toList = before ++ '~' :: after →
      after.head? = some '0' ∨ after.head? = some '1') ∧
    unescapePointer (escapePointer name) = name ∧
    (∀ name', definitionPointer name = definitionPointer name' → name = name') ∧
    ∀ (g : Generator) (root : Node) (document : Json),
      g.generate root = .ok document → document ≠ .null →
        ((g.run root).2.sharedSchemas ≠ [] →
          document.pointee? (definitionPointer name) = get? document.definitions name ∧
          get? document.definitions name = ((g.run root).2.definition? name).map .object) ∧
        ∀ path, .emittingReference name path ∈ g.events root →
          ∃ k, document.pointee? (definitionPointer name) = some (.object k) := by
  refine ⟨rfl, toList_escapePointer name, slash_not_mem_escapePointer name,
    fun before after h => head?_of_escapePointer h, unescapePointer_escapePointer name,
    fun name' h => definitionPointer_injective h, fun g root document h hnull => ⟨?_, ?_⟩⟩
  · intro hdefs
    exact pointee?_generate h hnull hdefs name
  · intro path hpath
    obtain ⟨k, hk⟩ := exists_of_mem_events hpath
    obtain ⟨hpointee, hget⟩ := pointee?_generate h hnull (sharedSchemas_ne_nil hk) name
    exact ⟨k, by rw [hpointee, hget, hk]; rfl⟩

/-- An object with a property of a type whose name has a slash and looks escaped. -/
def harbour : Node :=
  (Node.ofKind .object).field "quay" ((Node.ofKind .object).withTypeName "sea/~1")

/-- The tilde is escaped as well, so the pointer does not end at a slash. -/
theorem harbour_pointer :
    ∃ document, (ofProfile .swagger2).generate harbour = .ok document ∧ document ≠ .null ∧
      definitionPointer "sea/~1" = "#/definitions/sea~1~01" ∧
      unescapePointer "sea~1~01" = "sea/~1" ∧
      keys document.definitions = ["sea/~1"] ∧
      document.pointee? "#/definitions/sea~1~01" = get? document.definitions "sea/~1" ∧
      ∃ k, document.pointee? "#/definitions/sea~1~01" = some (.object k) := by
  obtain ⟨-, -, -, -, hname, -, hdocuments⟩ := definition_pointers_say_names "sea/~1"
  obtain ⟨document, h⟩ : ∃ document, (ofProfile .swagger2).generate harbour = .ok document :=
    ⟨_, rfl⟩
  have hnull : document ≠ .null := by
    cases h
    simp
  have hdefinitions : keys document.definitions = ["sea/~1"] := by
    cases h
    rfl
  obtain ⟨hpointee, hreference⟩ := hdocuments (ofProfile .swagger2) harbour document h hnull
  refine ⟨document, h, hnull, rfl, hname, hdefinitions, ?_, ?_⟩
  · exact (hpointee (by decide)).1
  · exact hreference [.property "quay"] (by decide)

end Generator

end SchemaTree
