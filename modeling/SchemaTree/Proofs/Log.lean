import SchemaTree.Proofs.Extraction

/-!
# What a conversion reports

A conversion that fails reports that once, as the last thing it does. With definitions, what a
conversion reports before it succeeds is a function of the tree: a line for every reference that is
written, and one for every object that has been converted.

* `Event.cachedName?`, `Event.referencedName?`: the types that events are about;
* `Progress.Tells`, **`Profile.resolve_tells`**: a failure is reported at the end and only there;
  `events_of_error`, `unfailing_events`;
* `Node.log`, `Profile.Logs`, **`Profile.resolve_logs`**: what is reported with definitions;
* `Node.keys_finish`: the names of the definitions are those of the objects that were reported;
* `Announced`, `Node.announced_log`: references are reported after their objects.
-/

namespace SchemaTree

open OrderedMap

namespace Event

/-- The type of the object that an event reports as converted. -/
def cachedName? : Event → Option String
  | cachingDefinition name _ => some name
  | _ => none

/-- The type of the object that an event reports as written by a reference. -/
def referencedName? : Event → Option String
  | emittingReference name _ => some name
  | _ => none

end Event

/-- No event reports a failure. -/
def Unfailing (es : List Event) : Prop := ∀ κ path, .noConverter κ path ∉ es

theorem Unfailing.append {es fs : List Event} (h : Unfailing es) (h' : Unfailing fs) :
    Unfailing (es ++ fs) :=
  fun κ path hmem => (List.mem_append.1 hmem).elim (h κ path) (h' κ path)

theorem unfailing_nil : Unfailing [] := fun _ _ => List.not_mem_nil

/-! ## Failures -/

namespace Progress

/-- The conversion goes on from `s` to `t` without reporting a failure. -/
def Continues (s t : Progress) : Prop := ∃ later, t.events = s.events ++ later ∧ Unfailing later

/-- The events from `s` on tell how a computation ends: a failure is reported at the end, and nothing
else is reported as a failure. -/
def Tells {α : Type} (s : Progress) : Except ConversionError α × Progress → Prop
  | (.ok _, t) => s.Continues t
  | (.error e, t) => ∃ u, s.Continues u ∧ t.events = u.events ++ [.noConverter e.kind e.path]

variable {s t u : Progress} {α : Type}

theorem Continues.of_eq (h : t.events = s.events) : s.Continues t :=
  ⟨[], by rw [h, List.append_nil], unfailing_nil⟩

theorem Continues.trans (h : s.Continues t) (h' : t.Continues u) : s.Continues u := by
  obtain ⟨later, ht, hlater⟩ := h
  obtain ⟨later', hu, hlater'⟩ := h'
  exact ⟨later ++ later', by rw [hu, ht, List.append_assoc], hlater.append hlater'⟩

theorem Continues.tells (h : s.Continues t) {r : Except ConversionError α × Progress}
    (hr : t.Tells r) : s.Tells r := by
  obtain ⟨e | a, u⟩ := r
  · obtain ⟨v, hv, hu⟩ := hr
    exact ⟨v, h.trans hv, hu⟩
  · exact Continues.trans h hr

theorem continues_report (s : Progress) {e : Event} (h : ∀ κ path, e ≠ .noConverter κ path) :
    s.Continues (s.report e) :=
  ⟨[e], rfl, fun κ path hmem => h κ path (List.mem_singleton.1 hmem).symm⟩

theorem continues_noteResult (s : Progress) (segment : Segment) (k : Option Keywords) :
    s.Continues (s.noteResult segment k) := by
  cases segment <;> cases k
  · exact s.continues_report (by simp)
  all_goals exact .of_eq rfl

theorem tells_emitReference (name : String) (s : Progress) :
    s.Tells (Generator.emitReference name s) := by
  unfold Generator.emitReference
  cases s.definition? name with
  | none => exact Continues.of_eq rfl
  | some k => exact s.continues_report (by simp)

end Progress

open Progress

namespace Profile

section

variable (p : Profile) (extracts : Bool) (dialect : Option String)

theorem inductive_tells :
    p.Inductive extracts dialect (fun _ s r => s.Tells r) (fun _ s r => s.Tells r)
      (fun _ s r => s.Tells r) where
  unregistered _ s _ := ⟨s, .of_eq rfl, rfl⟩
  failed _ _ _ _ _ h := h
  assembled _ _ _ _ _ h := h
  inlined _ _ _ _ h := h
  known _ s name _ _ := tells_emitReference name s
  broken _ _ _ _ _ _ _ h := h
  defined _ s name k t _ _ h := by
    have hreport := t.continues_report (e := .cachingDefinition name t.path) (by simp)
    exact (Continues.trans h hreport).tells (tells_emitReference name _)
  nil _ := Continues.of_eq rfl
  partFailed _ _ _ _ _ _ h := h
  partResolved segment _ _ s k t r u h hrest := by
    have hnote : s.Continues ((t.leave s.path).noteResult segment k) :=
      Continues.trans h (continues_noteResult (t.leave s.path) segment k)
    have hall := hnote.tells hrest
    cases r <;> exact hall

/-- **A failure is reported at the end of what is reported, and only there.** -/
theorem resolve_tells (n : Node) (s : Progress) :
    s.Tells ((p.generator extracts dialect).resolve n s) :=
  resolve_induction (p.inductive_tells extracts dialect) n s

variable {p extracts dialect} {root : Node}

theorem events_of_error {e : ConversionError}
    (h : (p.generator extracts dialect).generate root = .error e) :
    ∃ earlier, (p.generator extracts dialect).events root =
      earlier ++ [.noConverter e.kind e.path] ∧ Unfailing earlier := by
  have htells := p.resolve_tells extracts dialect root {}
  have herror := Generator.run_eq_error h
  rw [← Generator.run] at htells
  rcases hr : (p.generator extracts dialect).run root with ⟨r, t⟩
  rw [hr] at htells herror
  subst herror
  obtain ⟨u, ⟨later, hu, hlater⟩, ht⟩ := htells
  refine ⟨later, ?_, hlater⟩
  rw [Generator.events, hr, ht, hu]
  rfl

theorem unfailing_events {document : Json}
    (h : (p.generator extracts dialect).generate root = .ok document) :
    Unfailing ((p.generator extracts dialect).events root) := by
  have htells := p.resolve_tells extracts dialect root {}
  rw [← Generator.run] at htells
  rw [Generator.generate] at h
  rw [Generator.events]
  rcases hr : (p.generator extracts dialect).run root with ⟨e | k, t⟩
  · rw [hr] at h
    cases h
  · rw [hr] at htells
    obtain ⟨later, ht, hlater⟩ := htells
    rw [ht]
    exact hlater

end

end Profile

/-! ## Successes -/

namespace Node

mutual

/-- What is reported from a node at `path` on, if the objects in `F` have been finished. -/
def log (F : Finished) (path : Path) : Node → List Event
  | mk a children =>
    let below := if a.kind.isObject then logProperties F path children
      else if a.kind.isArray then logItem F path children
      else []
    match (mk a children).objectName? with
    | none => below
    | some name =>
      if contains F name then [.emittingReference name path]
      else below ++ [.cachingDefinition name path, .emittingReference name path]

/-- What is reported from the properties of an object at `path` on. -/
def logProperties (F : Finished) (path : Path) : List Node → List Event
  | [] => []
  | c :: cs => log F (path.push (.property c.name)) c ++ logProperties (finish F c) path cs

/-- What is reported from the item of an array at `path` on. -/
def logItem (F : Finished) (path : Path) : List Node → List Event
  | [] => []
  | c :: _ => log F (path.push .items) c

end

/-- What is reported from some parts of a node at `path` on. -/
def logParts (F : Finished) (path : Path) : List (Segment × Node) → List Event
  | [] => []
  | e :: parts => log F (path.push e.1) e.2 ++ logParts (finish F e.2) path parts

theorem logProperties_eq (F : Finished) (path : Path) (cs : List Node) :
    logProperties F path cs = logParts F path (cs.map fun c => (.property c.name, c)) := by
  induction cs generalizing F with
  | nil => rfl
  | cons c cs ih => rw [logProperties, ih]; rfl

theorem log_eq (F : Finished) (path : Path) (n : Node) :
    log F path n =
      match n.objectName? with
      | none => logParts F path n.parts
      | some name =>
        if contains F name then [.emittingReference name path]
        else logParts F path n.parts ++
          [.cachingDefinition name path, .emittingReference name path] := by
  have hbelow : (if n.kind.isObject then logProperties F path n.children
      else if n.kind.isArray then logItem F path n.children else []) =
      logParts F path n.parts := by
    rcases n.object_or_array_or_leaf with hn | hn | hn
    · rw [parts_of_object hn, ← logProperties_eq, hn]
      rfl
    · rw [parts_of_array hn, hn]
      cases n.children with
      | nil => rfl
      | cons c cs => exact (List.append_nil _).symm
    · have hkind : n.kind.isObject = false ∧ n.kind.isArray = false := by
        simpa [Kind.isLeaf] using hn
      rw [parts_of_leaf hn]
      simp [hkind, logParts]
  rw [← hbelow]
  obtain ⟨a, children⟩ := n
  rw [log]
  rfl

section

variable {F : Finished} {n : Node} {name : String}

theorem log_of_none (h : n.objectName? = none) (path : Path) :
    log F path n = logParts F path n.parts := by
  rw [log_eq, h]

theorem log_of_finished (h : n.objectName? = some name) (hF : name ∈ keys F) (path : Path) :
    log F path n = [.emittingReference name path] := by
  rw [log_eq, h]
  exact if_pos ((mem_keys_iff F name).1 hF)

theorem log_of_unfinished (h : n.objectName? = some name) (hF : name ∉ keys F) (path : Path) :
    log F path n = logParts F path n.parts ++
      [.cachingDefinition name path, .emittingReference name path] := by
  rw [log_eq, h]
  exact if_neg (mt (mem_keys_iff F name).2 hF)

end

end Node

namespace Profile

/-- From the definitions of some finished objects on, a computation with a result reports what `log`
says and leaves the path as it was. -/
def Logs {σ α : Type} (p : Profile) (log : Node.Finished → Path → σ → List Event) :
    Postcondition σ α := fun a s r =>
  ∀ F, s.definitions = p.definitionsOf F → ∀ v, r.1 = .ok v →
    r.2.events = s.events ++ log F s.path a ∧ r.2.path = s.path

variable {p : Profile} {dialect : Option String}

theorem inductive_logs (p : Profile) (dialect : Option String) :
    p.Inductive true dialect
      (fun n s r => p.Writes (fun n => some (p.site n)) Node.finish n s r ∧
        p.Logs Node.log n s r)
      (fun n s r => p.Writes (fun n => some (p.body n)) (fun F n => Node.finishParts F n.parts)
        n s r ∧ p.Logs (fun F path n => Node.logParts F path n.parts) n s r)
      (fun parts s r => p.Writes (fun parts => parts.map fun e => some (p.site e.2))
        Node.finishParts parts s r ∧ p.Logs Node.logParts parts s r) where
  unregistered n s hn :=
    ⟨(inductive_writes p dialect).unregistered n s hn, fun F _ v hv => by cases hv⟩
  failed n s e t hn h :=
    ⟨(inductive_writes p dialect).failed n s e t hn h.1, fun F _ v hv => by cases hv⟩
  assembled n s ks t hn h :=
    ⟨(inductive_writes p dialect).assembled n s ks t hn h.1, fun F hs v _ => h.2 F hs ks rfl⟩
  inlined n s r hname h := by
    refine ⟨(inductive_writes p dialect).inlined n s r hname h.1, fun F hs v hv => ?_⟩
    rw [Node.log_of_none (by rwa [sharedName?_generator] at hname)]
    exact h.2 F hs v hv
  known n s name hname hdefined := by
    refine ⟨(inductive_writes p dialect).known n s name hname hdefined, fun F hs v _ => ?_⟩
    rw [sharedName?_generator] at hname
    have hfinished : name ∈ keys F := (mem_keys_iff_isDefined hs).2 hdefined
    rw [emitReference_of_finished hs ((mem_keys_iff F name).1 hfinished),
      Node.log_of_finished hname hfinished]
    exact ⟨rfl, rfl⟩
  broken n s name e t hname hnew h :=
    ⟨(inductive_writes p dialect).broken n s name e t hname hnew h.1,
      fun F _ v hv => by cases hv⟩
  defined n s name k t hname hnew h := by
    refine ⟨(inductive_writes p dialect).defined n s name k t hname hnew h.1, fun F hs v hv => ?_⟩
    rw [sharedName?_generator] at hname
    obtain ⟨rfl, ht⟩ := h.1 F hs k rfl
    obtain ⟨hevents, hpath⟩ := h.2 F hs _ rfl
    have hunfinished : name ∉ keys F := by
      rw [mem_keys_iff_isDefined hs, hnew]
      decide
    have hdefine := definitions_define ht name n t.path
    change t.events = _ at hevents
    change t.path = s.path at hpath
    rw [emitReference_of_finished hdefine (contains_insertIfNew _ _ _),
      Node.log_of_unfinished hname hunfinished]
    refine ⟨?_, hpath⟩
    change (t.events ++ [.cachingDefinition name t.path]) ++ [.emittingReference name t.path] = _
    rw [hevents, hpath, List.append_assoc, List.append_assoc]
    rfl
  nil s := ⟨(inductive_writes p dialect).nil s, fun F _ v _ => ⟨(List.append_nil _).symm, rfl⟩⟩
  partFailed segment c parts s e t h :=
    ⟨(inductive_writes p dialect).partFailed segment c parts s e t h.1,
      fun F _ v hv => by cases hv⟩
  partResolved segment c parts s k t r u h hrest := by
    refine ⟨(inductive_writes p dialect).partResolved segment c parts s k t r u h.1 hrest.1,
      fun F hs v hv => ?_⟩
    obtain ⟨rfl, ht⟩ := h.1 F hs k rfl
    obtain ⟨hevents, -⟩ := h.2 F hs _ rfl
    -- The part has a schema, so that nothing is reported about it.
    have hnote : (t.leave s.path).noteResult segment (some (p.site c)) = t.leave s.path := by
      cases segment <;> rfl
    rw [hnote] at hrest
    cases r with
    | error e => cases hv
    | ok ks =>
      obtain ⟨hevents', hpath⟩ := hrest.2 (Node.finish F c) ht ks rfl
      refine ⟨?_, hpath⟩
      change u.events = _
      rw [hevents']
      change (t.events ++ _) = _
      rw [hevents, List.append_assoc]
      rfl

/-- **With definitions, a node that is resolved reports its log.** -/
theorem resolve_logs (p : Profile) (dialect : Option String) (n : Node) (s : Progress) :
    p.Logs Node.log n s ((p.generator true dialect).resolve n s) :=
  (resolve_induction (inductive_logs p dialect) n s).2

theorem events_generate {root : Node} {document : Json}
    (h : (p.generator true dialect).generate root = .ok document) :
    (p.generator true dialect).events root = root.log [] [] := by
  obtain ⟨k, t, hrun, -⟩ := generate_ordered h
  have hlogs := p.resolve_logs dialect root {} [] rfl (some k)
  rw [← Generator.run, hrun] at hlogs
  rw [Generator.events, hrun]
  exact (hlogs rfl).1

end Profile

/-! ## Definitions and references in the log -/

namespace Node

theorem keys_finishParts {parts : List (Segment × Node)}
    (h : ∀ e ∈ parts, ∀ F path, (keys F).Nodup →
      keys (finish F e.2) = (keys F ++ (log F path e.2).filterMap Event.cachedName?).eraseDups)
    (path : Path) : ∀ F, (keys F).Nodup → keys (finishParts F parts) =
      (keys F ++ (logParts F path parts).filterMap Event.cachedName?).eraseDups := by
  induction parts with
  | nil =>
    intro F hF
    rw [logParts, List.filterMap_nil, List.append_nil, eraseDups_of_nodup hF]
    rfl
  | cons e parts ih =>
    intro F hF
    obtain ⟨he, hparts⟩ := List.forall_mem_cons.1 h
    have hhead := he F (path.push e.1) hF
    have hnodup : (keys (finish F e.2)).Nodup := by
      rw [hhead]
      exact nodup_eraseDups _
    have hrest := ih hparts (finish F e.2) hnodup
    change keys (finishParts (finish F e.2) parts) = _
    rw [hrest, hhead, eraseDups_eraseDups_append, logParts, List.filterMap_append,
      List.append_assoc]

/-- **The names of the finished objects are those that are reported**, without repetitions. -/
theorem keys_finish (n : Node) : ∀ F path, (keys F).Nodup →
    keys (finish F n) = (keys F ++ (log F path n).filterMap Event.cachedName?).eraseDups := by
  induction n using parts_induction with
  | h n ih =>
    intro F path hF
    have hparts := keys_finishParts ih path F hF
    cases hname : n.objectName? with
    | none => rw [finish_of_none hname, log_of_none hname, hparts]
    | some name =>
      by_cases hfinished : name ∈ keys F
      · rw [finish_of_finished hname hfinished, log_of_finished hname hfinished]
        change keys F = (keys F ++ []).eraseDups
        rw [List.append_nil, eraseDups_of_nodup hF]
      · have hlog : (log F path n).filterMap Event.cachedName? =
            (logParts F path n.parts).filterMap Event.cachedName? ++ [name] := by
          rw [log_of_unfinished hname hfinished, List.filterMap_append]
          rfl
        have hmem : name ∈ keys F ++ (logParts F path n.parts).filterMap Event.cachedName? ↔
            name ∈ keys (finishParts F n.parts) := by
          rw [hparts, List.mem_eraseDups]
        rw [hlog, ← List.append_assoc, eraseDups_concat, ← hparts,
          finish_of_unfinished hname hfinished]
        by_cases hnested : name ∈ keys (finishParts F n.parts)
        · rw [insertIfNew_of_mem hnested, if_pos (hmem.2 hnested)]
        · rw [insertIfNew_of_not_mem hnested, if_neg (mt hmem.1 hnested), keys, List.map_append]
          rfl

theorem nodup_keys_finish (n : Node) {F : Finished} (hF : (keys F).Nodup) :
    (keys (finish F n)).Nodup := by
  rw [keys_finish n F [] hF]
  exact nodup_eraseDups _

end Node

/-- Every reference that is reported is one to a known type, or to one whose object has been reported
before. -/
def Announced (known : List String) (es : List Event) : Prop :=
  ∀ earlier name path later, es = earlier ++ .emittingReference name path :: later →
    name ∈ known ++ earlier.filterMap Event.cachedName?

theorem announced_nil (known : List String) : Announced known [] := by
  intro earlier name path later heq
  cases earlier <;> cases heq

theorem Announced.mono {known known' : List String} {es : List Event} (h : Announced known es)
    (hknown : ∀ name ∈ known, name ∈ known') : Announced known' es :=
  fun earlier name path later heq => List.mem_append.2
    ((List.mem_append.1 (h earlier name path later heq)).imp_left (hknown name))

theorem Announced.append {known : List String} {es fs : List Event} (h : Announced known es)
    (h' : Announced (known ++ es.filterMap Event.cachedName?) fs) : Announced known (es ++ fs) := by
  intro earlier name path later heq
  rcases List.append_eq_append_iff.1 heq with ⟨between, rfl, hfs⟩ | ⟨rest, hes, hrest⟩
  · rw [List.filterMap_append, ← List.append_assoc]
    exact h' between name path later hfs
  · rcases List.cons_eq_append_iff.1 hrest with ⟨rfl, hfs⟩ | ⟨rest, rfl, -⟩
    · have hmem := h' [] name path later hfs
      rwa [hes, List.filterMap_nil, List.append_nil, List.append_nil] at hmem
    · exact h earlier name path rest hes

theorem announced_singleton {known : List String} {e : Event}
    (h : ∀ name ∈ e.referencedName?, name ∈ known) : Announced known [e] := by
  intro earlier name path later heq
  rcases List.cons_eq_append_iff.1 heq with ⟨rfl, heq⟩ | ⟨_, -, heq⟩
  · cases heq
    exact List.mem_append_left _ (h name rfl)
  · exact absurd heq.symm (by simp)

namespace Node

theorem announced_logParts {parts : List (Segment × Node)}
    (h : ∀ e ∈ parts, ∀ F path, (keys F).Nodup → Announced (keys F) (log F path e.2))
    (path : Path) : ∀ F, (keys F).Nodup → Announced (keys F) (logParts F path parts) := by
  induction parts with
  | nil => exact fun F _ => announced_nil _
  | cons e parts ih =>
    intro F hF
    obtain ⟨he, hparts⟩ := List.forall_mem_cons.1 h
    have hkeys := keys_finish e.2 F (path.push e.1) hF
    refine (he F _ hF).append ((ih hparts _ (nodup_keys_finish e.2 hF)).mono fun name hname => ?_)
    rwa [hkeys, List.mem_eraseDups] at hname

/-- **A reference is reported only after an object of its type**, or to a type that was finished
before. -/
theorem announced_log (n : Node) : ∀ F path, (keys F).Nodup → Announced (keys F) (log F path n) := by
  induction n using parts_induction with
  | h n ih =>
    intro F path hF
    have hparts := announced_logParts ih path F hF
    cases hname : n.objectName? with
    | none =>
      rw [log_of_none hname]
      exact hparts
    | some name =>
      by_cases hfinished : name ∈ keys F
      · rw [log_of_finished hname hfinished]
        exact announced_singleton fun name' hname' => Option.some.inj hname' ▸ hfinished
      · have hobject (known : List String) :
            Announced known [.cachingDefinition name path, .emittingReference name path] := by
          have hcaching : Announced known [.cachingDefinition name path] :=
            announced_singleton fun _ hname' => by cases hname'
          refine hcaching.append (announced_singleton fun name' hname' => ?_)
          rw [← Option.some.inj hname']
          exact List.mem_append_right _ List.mem_cons_self
        rw [log_of_unfinished hname hfinished]
        exact hparts.append (hobject _)

end Node

end SchemaTree
