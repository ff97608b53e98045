/-!
# Ordered maps

A map is the list of its entries, in the order in which their keys first came. Storing under a
known key replaces the value and keeps the place; a new key goes to the end.

* `insert`, `erase`, `extend`, `insertIfNew` build maps; `get?`, `contains`, `keys` read them;
* `get?_insert`: the last value stored under a key is the one found there;
* `keys_insert`, `nodup_keys_insert`: storing adds at most its own key, and never twice;
* `insert_of_not_mem`, `insertIfNew_of_not_mem`, `extend_of_nodup`: new keys go to the end;
* `isPrefix_insertIfNew`, `nodup_keys_insertIfNew`: known keys keep their values and places;
* `get?_extend`, `nodup_keys_extend`: the same for a list of entries, where the last value wins;
* `mem_of_mem_extend`: entries of a larger map;
* `get?_map`, `map_insertIfNew`, `map_extend`: all values changed;
* `get?_append`, `get?_of_isPrefix`, `get?_of_mem`: where a value comes from.
-/

namespace SchemaTree

universe u v

/-- The entries of a map, in the order in which their keys first came. -/
abbrev OrderedMap (κ : Type u) (α : Type v) := List (κ × α)

namespace OrderedMap

variable {κ : Type u} {α : Type v}

/-- The keys, in order. -/
def keys (m : OrderedMap κ α) : List κ := m.map Prod.fst

theorem keys_map {β : Type v} (f : α → β) (m : OrderedMap κ α) :
    keys (m.map (Prod.map id f)) = keys m := by
  rw [keys, List.map_map]
  rfl

variable [DecidableEq κ]

/-- The value stored under `k`. -/
def get? : OrderedMap κ α → κ → Option α
  | [], _ => none
  | (k', v) :: m, k => if k' = k then some v else get? m k

/-- Whether something is stored under `k`. -/
def contains (m : OrderedMap κ α) (k : κ) : Bool := (get? m k).isSome

/-- Stores `v` under `k`: a known key keeps its place, a new one goes to the end. -/
def insert : OrderedMap κ α → κ → α → OrderedMap κ α
  | [], k, v => [(k, v)]
  | (k', v') :: m, k, v => if k' = k then (k, v) :: m else (k', v') :: insert m k v

/-- Stores `v` under `k` unless the key is known. -/
def insertIfNew (m : OrderedMap κ α) (k : κ) (v : α) : OrderedMap κ α :=
  if contains m k then m else insert m k v

/-- Removes the entry of `k`; the other entries keep their order. -/
def erase (m : OrderedMap κ α) (k : κ) : OrderedMap κ α := m.filter fun e => e.1 ≠ k

/-- Stores every entry of `n`, in order. -/
def extend (m n : OrderedMap κ α) : OrderedMap κ α :=
  n.foldl (fun acc e => insert acc e.1 e.2) m

/-! ## Laws -/

@[simp] theorem get?_nil (k : κ) : get? ([] : OrderedMap κ α) k = none := rfl

@[simp] theorem extend_nil (m : OrderedMap κ α) : extend m [] = m := rfl

theorem get?_insert (m : OrderedMap κ α) (k k' : κ) (v : α) :
    get? (insert m k v) k' = if k = k' then some v else get? m k' := by
  induction m with
  | nil => simp [insert, get?]
  | cons e m ih =>
    obtain ⟨a, b⟩ := e
    by_cases h : a = k
    · subst h
      by_cases h' : a = k' <;> simp [insert, get?, h']
    · by_cases h' : a = k'
      · subst h'
        simp [insert, get?, h, Ne.symm h]
      · simp [insert, get?, h, h', ih]

theorem mem_keys_iff (m : OrderedMap κ α) (k : κ) : k ∈ keys m ↔ contains m k = true := by
  induction m with
  | nil => simp [keys, contains, get?]
  | cons e m ih =>
    obtain ⟨a, b⟩ := e
    by_cases h : a = k
    · simp [keys, contains, get?, h]
    · simp only [keys, contains, get?, List.map_cons, List.mem_cons, h, if_false] at ih ⊢
      rw [ih]
      simp [Ne.symm h]

theorem keys_insert (m : OrderedMap κ α) (k : κ) (v : α) :
    keys (insert m k v) = if k ∈ keys m then keys m else keys m ++ [k] := by
  induction m with
  | nil => simp [insert, keys]
  | cons e m ih =>
    obtain ⟨a, b⟩ := e
    by_cases h : a = k
    · simp [insert, keys, h]
    · have h' : ¬ k = a := fun e => h e.symm
      simp only [keys] at ih
      by_cases hk : k ∈ m.map Prod.fst <;> simp_all [insert, keys]

theorem nodup_keys_insert {m : OrderedMap κ α} (hm : (keys m).Nodup) (k : κ) (v : α) :
    (keys (insert m k v)).Nodup := by
  rw [keys_insert]
  split
  · exact hm
  · rename_i h
    refine List.nodup_append.2 ⟨hm, by simp, ?_⟩
    intro a ha b hb hab
    simp only [List.mem_singleton] at hb
    exact h (hb ▸ hab ▸ ha)

theorem insert_of_not_mem {m : OrderedMap κ α} {k : κ} (h : k ∉ keys m) (v : α) :
    insert m k v = m ++ [(k, v)] := by
  induction m with
  | nil => rfl
  | cons e m ih =>
    simp only [keys, List.map_cons, List.mem_cons, not_or] at h
    rw [insert, if_neg (Ne.symm h.1), ih h.2, List.cons_append]

theorem get?_eq_none_iff (m : OrderedMap κ α) (k : κ) : get? m k = none ↔ k ∉ keys m := by
  rw [mem_keys_iff, contains, Bool.not_eq_true, Option.isSome_eq_false_iff, Option.isNone_iff_eq_none]

theorem insertIfNew_of_mem {m : OrderedMap κ α} {k : κ} (h : k ∈ keys m) (v : α) :
    insertIfNew m k v = m := by
  simp [insertIfNew, (mem_keys_iff m k).1 h]

theorem insertIfNew_of_not_mem {m : OrderedMap κ α} {k : κ} (h : k ∉ keys m) (v : α) :
    insertIfNew m k v = m ++ [(k, v)] := by
  have hcontains : contains m k = false := by simpa [mem_keys_iff] using h
  rw [insertIfNew, hcontains, insert_of_not_mem h]
  rfl

theorem isPrefix_insertIfNew (m : OrderedMap κ α) (k : κ) (v : α) : m <+: insertIfNew m k v := by
  by_cases h : k ∈ keys m
  · exact ⟨[], by rw [insertIfNew_of_mem h, List.append_nil]⟩
  · exact ⟨[(k, v)], (insertIfNew_of_not_mem h v).symm⟩

theorem nodup_keys_insertIfNew {m : OrderedMap κ α} (hm : (keys m).Nodup) (k : κ) (v : α) :
    (keys (insertIfNew m k v)).Nodup := by
  unfold insertIfNew
  split
  · exact hm
  · exact nodup_keys_insert hm k v

theorem contains_insertIfNew (m : OrderedMap κ α) (k : κ) (v : α) :
    contains (insertIfNew m k v) k = true := by
  unfold insertIfNew
  split
  · assumption
  · simp [contains, get?_insert]

theorem get?_append (m n : OrderedMap κ α) (k : κ) :
    get? (m ++ n) k = (get? m k).or (get? n k) := by
  induction m with
  | nil => rfl
  | cons e m ih =>
    rw [List.cons_append, get?, get?, ih]
    by_cases h : e.1 = k <;> simp [h]

theorem get?_of_isPrefix {m n : OrderedMap κ α} (h : m <+: n) {k : κ} {v : α}
    (hk : get? m k = some v) : get? n k = some v := by
  obtain ⟨l, rfl⟩ := h
  rw [get?_append, hk, Option.some_or]

theorem get?_of_mem {m : OrderedMap κ α} (hm : (keys m).Nodup) {e : κ × α} (he : e ∈ m) :
    get? m e.1 = some e.2 := by
  induction m with
  | nil => cases he
  | cons d m ih =>
    simp only [keys, List.map_cons, List.nodup_cons] at hm
    rcases List.mem_cons.1 he with rfl | he
    · rw [get?, if_pos rfl]
    · have hd : d.1 ≠ e.1 := fun h => hm.1 (h ▸ List.mem_map_of_mem he)
      rw [get?, if_neg hd, ih hm.2 he]

theorem extend_cons (m : OrderedMap κ α) (e : κ × α) (n : OrderedMap κ α) :
    extend m (e :: n) = extend (insert m e.1 e.2) n := rfl

theorem get?_extend (m n : OrderedMap κ α) (k : κ) :
    get? (extend m n) k = (get? n.reverse k).or (get? m k) := by
  induction n generalizing m with
  | nil => rfl
  | cons e n ih =>
    rw [extend_cons, ih, List.reverse_cons, get?_append, Option.or_assoc, get?_insert]
    by_cases h : e.1 = k <;> simp [get?, h]

theorem nodup_keys_extend {m : OrderedMap κ α} (hm : (keys m).Nodup) (n : OrderedMap κ α) :
    (keys (extend m n)).Nodup := by
  induction n generalizing m with
  | nil => exact hm
  | cons e n ih => exact ih (nodup_keys_insert hm e.1 e.2)

theorem extend_cons_of_not_mem (e : κ × α) (m : OrderedMap κ α) {n : OrderedMap κ α}
    (h : e.1 ∉ keys n) : extend (e :: m) n = e :: extend m n := by
  induction n generalizing m with
  | nil => rfl
  | cons d n ih =>
    simp only [keys, List.map_cons, List.mem_cons, not_or] at h
    rw [extend_cons, extend_cons, insert, if_neg h.1, ih _ h.2]

theorem mem_keys_extend (m n : OrderedMap κ α) (k : κ) :
    k ∈ keys (extend m n) ↔ k ∈ keys m ∨ k ∈ keys n := by
  induction n generalizing m with
  | nil => simp [keys]
  | cons e n ih =>
    have hk : k ∈ keys (insert m e.1 e.2) ↔ k ∈ keys m ∨ k = e.1 := by
      rw [keys_insert]
      split
      · exact ⟨Or.inl, fun h => h.elim id fun h => h ▸ ‹_›⟩
      · simp
    rw [extend_cons, ih, hk, or_assoc]
    simp [keys]

theorem mem_of_mem_insert {m : OrderedMap κ α} {k : κ} {v : α} {e : κ × α}
    (h : e ∈ insert m k v) : e ∈ m ∨ e = (k, v) := by
  induction m with
  | nil => exact Or.inr (List.mem_singleton.1 h)
  | cons d m ih =>
    rw [insert] at h
    split at h
    · exact (List.mem_cons.1 h).elim Or.inr fun h => Or.inl (List.mem_cons_of_mem _ h)
    · rcases List.mem_cons.1 h with rfl | h
      · exact Or.inl List.mem_cons_self
      · exact (ih h).imp_left (List.mem_cons_of_mem _)

theorem mem_of_mem_extend {m n : OrderedMap κ α} {e : κ × α} (h : e ∈ extend m n) :
    e ∈ m ∨ e ∈ n := by
  induction n generalizing m with
  | nil => exact Or.inl h
  | cons d n ih =>
    rcases ih h with h | h
    · exact (mem_of_mem_insert h).imp_right fun he => List.mem_cons.2 (Or.inl he)
    · exact Or.inr (List.mem_cons_of_mem _ h)

theorem get?_map {β : Type v} (f : α → β) (m : OrderedMap κ α) (k : κ) :
    get? (m.map (Prod.map id f)) k = (get? m k).map f := by
  induction m with
  | nil => rfl
  | cons e m ih =>
    obtain ⟨a, b⟩ := e
    rw [List.map_cons, get?, ih]
    by_cases h : a = k <;> simp [get?, h]

theorem map_insert {β : Type v} (f : α → β) (m : OrderedMap κ α) (k : κ) (v : α) :
    (insert m k v).map (Prod.map id f) = insert (m.map (Prod.map id f)) k (f v) := by
  induction m with
  | nil => rfl
  | cons e m ih =>
    obtain ⟨a, b⟩ := e
    by_cases h : a = k
    · simp [insert, h]
    · rw [insert, if_neg h, List.map_cons, ih, List.map_cons]
      exact (if_neg h).symm

theorem map_insertIfNew {β : Type v} (f : α → β) (m : OrderedMap κ α) (k : κ) (v : α) :
    (insertIfNew m k v).map (Prod.map id f) = insertIfNew (m.map (Prod.map id f)) k (f v) := by
  rw [insertIfNew, insertIfNew, contains, contains, get?_map, Option.isSome_map]
  split
  · rfl
  · exact map_insert f m k v

theorem map_extend {β : Type v} (f : α → β) (m n : OrderedMap κ α) :
    (extend m n).map (Prod.map id f) =
      extend (m.map (Prod.map id f)) (n.map (Prod.map id f)) := by
  induction n generalizing m with
  | nil => rfl
  | cons e n ih => rw [extend_cons, ih, map_insert, List.map_cons, extend_cons]; rfl

theorem extend_of_nodup {m n : OrderedMap κ α} (h : (keys (m ++ n)).Nodup) :
    extend m n = m ++ n := by
  induction n generalizing m with
  | nil => simp
  | cons e n ih =>
    have he : e.1 ∉ keys m := by
      simp only [keys, List.map_append, List.map_cons] at h
      exact fun hm => (List.nodup_append.1 h).2.2 _ hm _ List.mem_cons_self rfl
    rw [extend_cons, insert_of_not_mem he, ih (by simpa using h), List.append_assoc]
    rfl

theorem erase_of_not_mem {m : OrderedMap κ α} {k : κ} (h : k ∉ keys m) : erase m k = m :=
  List.filter_eq_self.2 fun _ he => decide_eq_true fun hk => h (hk ▸ List.mem_map_of_mem he)

end OrderedMap

end SchemaTree
