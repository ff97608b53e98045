import SchemaTree.OrderedMap
import Mathlib.Data.List.Induction
import Mathlib.Data.List.Nodup

/-!
# Merging ordered maps

Maps are merged one after the other: later maps win, and a key keeps the place where it first came.
Where no key stands twice in a map, neighbours may be merged before the rest.

* `eraseDups_concat`, `keys_extend_nil`: keys without later repetitions;
* `extend_insert`, **`extend_extend`**, `foldl_extend`: the order of merging is of no account;
* `Merges`: what a merge holds, with `Merges.eq`: there is only one;
* **`merges_foldl`**: storing map after map gives the merge.
-/

namespace SchemaTree

universe u v

namespace OrderedMap

variable {κ : Type u} {α : Type v} [DecidableEq κ]

/-! ## Keys -/

theorem eraseDups_concat (ks : List κ) (k : κ) :
    (ks ++ [k]).eraseDups = if k ∈ ks then ks.eraseDups else ks.eraseDups ++ [k] := by
  rw [List.eraseDups_append]
  by_cases h : k ∈ ks <;> simp [List.removeAll, List.eraseDups_cons, h]

theorem keys_extend_nil (m : OrderedMap κ α) : keys (extend [] m) = (keys m).eraseDups := by
  induction m using List.reverseRecOn with
  | nil => rfl
  | append_singleton m e ih =>
    have hlast : extend [] (m ++ [e]) = insert (extend [] m) e.1 e.2 := List.foldl_concat _ _ _ _
    have hkeys : keys (m ++ [e]) = keys m ++ [e.1] := List.map_append
    rw [hlast, keys_insert, ih, hkeys, eraseDups_concat]
    simp only [List.mem_eraseDups]

theorem extend_append (m n l : OrderedMap κ α) : extend m (n ++ l) = extend (extend m n) l :=
  List.foldl_append

theorem extend_nil_of_nodup {m : OrderedMap κ α} (hm : (keys m).Nodup) : extend [] m = m :=
  extend_of_nodup hm

theorem keys_extend {m : OrderedMap κ α} (hm : (keys m).Nodup) (n : OrderedMap κ α) :
    keys (extend m n) = (keys m ++ keys n).eraseDups := by
  have happend : extend m n = extend [] (m ++ n) := by
    rw [extend_append, extend_nil_of_nodup hm]
  rw [happend, keys_extend_nil, keys, List.map_append]
  rfl

theorem nodup_eraseDups (ks : List κ) : ks.eraseDups.Nodup := by
  induction ks using List.reverseRecOn with
  | nil => exact List.nodup_nil
  | append_singleton ks k ih =>
    rw [eraseDups_concat]
    split
    · exact ih
    · rename_i hk
      rw [← List.concat_eq_append]
      exact ih.concat (mt List.mem_eraseDups.1 hk)

theorem eraseDups_of_nodup {ks : List κ} (h : ks.Nodup) : ks.eraseDups = ks := by
  induction ks using List.reverseRecOn with
  | nil => rfl
  | append_singleton ks k ih =>
    obtain ⟨hks, -, hdisjoint⟩ := List.nodup_append.1 h
    have hk : k ∉ ks := fun hmem => hdisjoint k hmem k (List.mem_singleton.2 rfl) rfl
    rw [eraseDups_concat, if_neg hk, ih hks]

theorem eraseDups_eraseDups_append (ks ls : List κ) :
    (ks.eraseDups ++ ls).eraseDups = (ks ++ ls).eraseDups := by
  induction ls using List.reverseRecOn with
  | nil => rw [List.append_nil, List.append_nil, eraseDups_of_nodup (nodup_eraseDups ks)]
  | append_singleton ls l ih =>
    rw [← List.append_assoc, ← List.append_assoc, eraseDups_concat, eraseDups_concat, ih]
    simp only [List.mem_append, List.mem_eraseDups]

/-! ## The order of merging -/

theorem insert_insert (m : OrderedMap κ α) (k : κ) (v w : α) :
    insert (insert m k v) k w = insert m k w := by
  induction m with
  | nil => simp [insert]
  | cons e m ih => by_cases h : e.1 = k <;> simp [insert, h, ih]

theorem insert_comm {m : OrderedMap κ α} {j k : κ} (hk : k ∈ keys m) (hne : j ≠ k) (v w : α) :
    insert (insert m j w) k v = insert (insert m k v) j w := by
  induction m with
  | nil => cases hk
  | cons e m ih =>
    by_cases hek : e.1 = k
    · have hej : ¬ e.1 = j := fun h => hne (h.symm.trans hek)
      have hkj : ¬ k = j := hne.symm
      simp [insert, hek, hkj]
    · have hmem : k ∈ keys m := (List.mem_cons.1 hk).resolve_left (Ne.symm hek)
      by_cases hej : e.1 = j
      · simp [insert, hej, hne]
      · simp [insert, hek, hej, ih hmem]

theorem insert_extend {m n : OrderedMap κ α} {k : κ} (hm : k ∈ keys m) (hn : k ∉ keys n) (v : α) :
    insert (extend m n) k v = extend (insert m k v) n := by
  induction n generalizing m with
  | nil => rfl
  | cons e n ih =>
    simp only [keys, List.map_cons, List.mem_cons, not_or] at hn
    have hmem : k ∈ keys (insert m e.1 e.2) := by
      rw [keys_insert]
      split
      · exact hm
      · exact List.mem_append_left _ hm
    rw [extend_cons, extend_cons, ih hmem hn.2, insert_comm hm (Ne.symm hn.1)]

theorem extend_insert (m : OrderedMap κ α) {n : OrderedMap κ α} (hn : (keys n).Nodup) (k : κ)
    (v : α) : extend m (insert n k v) = insert (extend m n) k v := by
  induction n generalizing m with
  | nil => rfl
  | cons e n ih =>
    simp only [keys, List.map_cons, List.nodup_cons] at hn
    rw [insert]
    split
    · rename_i he
      subst he
      have hmem : e.1 ∈ keys (insert m e.1 e.2) := by
        rw [mem_keys_iff, contains, get?_insert, if_pos rfl]
        rfl
      rw [extend_cons, extend_cons, insert_extend hmem hn.1, insert_insert]
    · rw [extend_cons, extend_cons, ih _ hn.2]

/-- **Neighbours may be merged first.** -/
theorem extend_extend (m : OrderedMap κ α) {n : OrderedMap κ α} (hn : (keys n).Nodup)
    (l : OrderedMap κ α) : extend m (extend n l) = extend (extend m n) l := by
  induction l generalizing n with
  | nil => rfl
  | cons e l ih =>
    rw [extend_cons, ih (nodup_keys_insert hn e.1 e.2), extend_insert m hn, extend_cons]

theorem nodup_keys_foldl_extend (ms : List (OrderedMap κ α)) : (keys (ms.foldl extend [])).Nodup := by
  induction ms using List.reverseRecOn with
  | nil => exact List.nodup_nil
  | append_singleton ms n ih =>
    rw [List.foldl_concat]
    exact nodup_keys_extend ih n

theorem foldl_extend (m : OrderedMap κ α) (ms : List (OrderedMap κ α)) :
    ms.foldl extend m = extend m (ms.foldl extend []) := by
  induction ms using List.reverseRecOn with
  | nil => rfl
  | append_singleton ms n ih =>
    rw [List.foldl_concat, List.foldl_concat, ih, extend_extend m (nodup_keys_foldl_extend ms)]

/-! ## Merges -/

/-- The map has the keys of all maps, each where it first came, and the value of each in the last
map that has one. -/
structure Merges (ms : List (OrderedMap κ α)) (m : OrderedMap κ α) : Prop where
  keys : keys m = (ms.flatMap keys).eraseDups
  value : ∀ k, get? m k = ms.reverse.findSome? fun n => get? n k

theorem get?_reverse {m : OrderedMap κ α} (hm : (keys m).Nodup) (k : κ) :
    get? m.reverse k = get? m k := by
  have h := get?_extend [] m k
  rwa [extend_nil_of_nodup hm, get?_nil, Option.or_none, eq_comm] at h

/-- **Storing map after map gives the merge.** -/
theorem merges_foldl {ms : List (OrderedMap κ α)} (h : ∀ m ∈ ms, (keys m).Nodup) :
    Merges ms (ms.foldl extend []) := by
  induction ms using List.reverseRecOn with
  | nil => exact ⟨rfl, fun _ => rfl⟩
  | append_singleton ms n ih =>
    obtain ⟨hms, hn⟩ := List.forall_mem_append.1 h
    have hprefix := ih hms
    rw [List.foldl_concat]
    constructor
    · rw [keys_extend (nodup_keys_foldl_extend ms), hprefix.keys, eraseDups_eraseDups_append,
        List.flatMap_append, List.flatMap_singleton]
    · intro k
      rw [get?_extend, hprefix.value, get?_reverse (hn n (List.mem_singleton.2 rfl)),
        List.reverse_append, List.reverse_singleton, List.singleton_append, List.findSome?_cons]
      cases get? n k <;> rfl

theorem ext_get? {m n : OrderedMap κ α} (hm : (keys m).Nodup) (hkeys : keys m = keys n)
    (h : ∀ k, get? m k = get? n k) : m = n := by
  induction m generalizing n with
  | nil => exact (List.map_eq_nil_iff.1 hkeys.symm).symm
  | cons e m ih =>
    cases n with
    | nil => cases hkeys
    | cons d n =>
      obtain ⟨a, v⟩ := e
      obtain ⟨b, w⟩ := d
      obtain ⟨hhead, htail⟩ := List.cons.inj hkeys
      change keys m = keys n at htail
      obtain rfl : a = b := hhead
      obtain ⟨hnot, hm⟩ := List.nodup_cons.1 hm
      have hvalue : v = w := by simpa [get?] using h a
      have hrest : ∀ k, get? m k = get? n k := by
        intro k
        by_cases hk : a = k
        · have hnot' : a ∉ keys n := htail ▸ hnot
          rw [← hk, (get?_eq_none_iff m a).2 hnot, (get?_eq_none_iff n a).2 hnot']
        · simpa [get?, hk] using h k
      rw [hvalue, ih hm htail hrest]

theorem Merges.eq {ms : List (OrderedMap κ α)} {m n : OrderedMap κ α} (hm : Merges ms m)
    (hn : Merges ms n) : m = n := by
  refine ext_get? ?_ (hm.keys.trans hn.keys.symm) fun k => (hm.value k).trans (hn.value k).symm
  rw [hm.keys]
  exact nodup_eraseDups _

end OrderedMap

end SchemaTree
