import ExpectedDamage.Keyed
import Mathlib.Data.List.Induction
import Mathlib.Data.List.Nodup
import Mathlib.Data.List.Perm.Subperm
/-!
# Keys of merged values

Merging values into none keeps each key once, at the place where it is first given
(`keys_merge`). So it leaves the values as they are if no key is given twice
(`merge_eq_self_of_nodup`), and if some key is, then there are fewer values afterwards
(`length_merge_lt`).
-/

namespace ExpectedDamage.Keyed

variable {α : Type}

def keys (entries : List (String × α)) : List String := entries.map Prod.fst

theorem insert_of_notMem {key : String} {entries : List (String × α)} (h : key ∉ keys entries)
    (value : α) : insert key value entries = entries ++ [(key, value)] := by
  induction entries with
  | nil => rfl
  | cons entry rest ih =>
      obtain ⟨k, v⟩ := entry
      obtain ⟨hne, hrest⟩ := List.ne_and_not_mem_of_not_mem_cons h
      rw [insert, if_neg (Ne.symm hne), ih hrest, List.cons_append]

theorem keys_insert_of_mem {key : String} {entries : List (String × α)} (h : key ∈ keys entries)
    (value : α) : keys (insert key value entries) = keys entries := by
  induction entries with
  | nil => exact nomatch h
  | cons entry rest ih =>
      obtain ⟨k, v⟩ := entry
      rw [insert]
      split
      · next hk => rw [keys, keys, List.map_cons, List.map_cons, hk]
      · next hk =>
          have hrest : key ∈ keys rest := (List.mem_cons.1 h).resolve_left (Ne.symm hk)
          exact congrArg (k :: ·) (ih hrest)

theorem merge_append_singleton (entries changes : List (String × α)) (key : String) (value : α) :
    merge entries (changes ++ [(key, value)]) = insert key value (merge entries changes) := by
  rw [merge, merge, List.foldl_append, List.foldl_cons, List.foldl_nil]

/-- A key stays where it is first given. -/
theorem keys_merge (changes : List (String × α)) :
    keys (merge [] changes) = (keys changes).eraseDups := by
  induction changes using List.reverseRecOn with
  | nil => rfl
  | append_singleton changes change ih =>
      obtain ⟨key, value⟩ := change
      have hmem : key ∈ keys (merge [] changes) ↔ key ∈ keys changes := by
        rw [ih, List.mem_eraseDups]
      have hkeys : keys (changes ++ [(key, value)]) = keys changes ++ [key] := List.map_append
      rw [merge_append_singleton, hkeys, List.eraseDups_append, ← ih]
      by_cases h : key ∈ keys changes
      · have hremoved : [key].removeAll (keys changes) = [] := by simp [List.removeAll, h]
        rw [keys_insert_of_mem (hmem.2 h), hremoved, List.eraseDups_nil, List.append_nil]
      · have hkept : [key].removeAll (keys changes) = [key] := by simp [List.removeAll, h]
        have hnew : key ∉ keys (merge [] changes) := fun hkey => h (hmem.1 hkey)
        rw [insert_of_notMem hnew, hkept, keys, List.map_append]
        rfl

theorem merge_ne_nil {changes : List (String × α)} (h : changes ≠ []) : merge [] changes ≠ [] := by
  obtain ⟨change, rest, rfl⟩ := List.exists_cons_of_ne_nil h
  have hmem : change.1 ∈ keys (merge [] (change :: rest)) := by
    rw [keys_merge, List.mem_eraseDups]
    exact List.mem_cons_self
  intro hnil
  rw [hnil] at hmem
  exact nomatch hmem

theorem nodup_keys_merge (changes : List (String × α)) : (keys (merge [] changes)).Nodup := by
  induction changes using List.reverseRecOn with
  | nil => exact List.nodup_nil
  | append_singleton changes change ih =>
      obtain ⟨key, value⟩ := change
      rw [merge_append_singleton]
      by_cases h : key ∈ keys (merge [] changes)
      · rwa [keys_insert_of_mem h]
      · rw [insert_of_notMem h, keys, List.map_append]
        exact ih.append (List.nodup_singleton key)
          (List.disjoint_singleton.2 h)

theorem merge_eq_self_of_nodup {changes : List (String × α)} (h : (keys changes).Nodup) :
    merge [] changes = changes := by
  induction changes using List.reverseRecOn with
  | nil => rfl
  | append_singleton changes change ih =>
      obtain ⟨key, value⟩ := change
      have hkeys : keys (changes ++ [(key, value)]) = keys changes ++ [key] := List.map_append
      rw [hkeys, List.nodup_append_comm, List.singleton_append, List.nodup_cons] at h
      rw [merge_append_singleton, ih h.2, insert_of_notMem h.1]

/-- There are fewer values after merging if a key is given twice. -/
theorem length_merge_lt {changes : List (String × α)} (h : ¬ (keys changes).Nodup) :
    (merge [] changes).length < changes.length := by
  have hsubset : keys (merge [] changes) ⊆ keys changes := by
    intro key hkey
    rwa [keys_merge, List.mem_eraseDups] at hkey
  have hsubperm := (nodup_keys_merge changes).subperm hsubset
  have hlength : (keys (merge [] changes)).length < (keys changes).length := by
    refine Nat.lt_of_not_ge fun hge => ?_
    exact h ((hsubperm.perm_of_length_le hge).nodup (nodup_keys_merge changes))
  rwa [keys, keys, List.length_map, List.length_map] at hlength

end ExpectedDamage.Keyed
