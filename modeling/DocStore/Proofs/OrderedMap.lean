import DocStore.OrderedMap
import Mathlib.Data.List.Basic

namespace DocStore

namespace OrderedMap

variable {α : Type}

theorem mem_of_get? {m : OrderedMap α} {key : String} {v : α} (h : m.get? key = some v) :
    (key, v) ∈ m := by
  induction m with
  | nil => cases h
  | cons entry rest ih =>
      obtain ⟨k, w⟩ := entry
      by_cases hk : k = key
      · simp only [get?, hk, if_true, Option.some.injEq] at h
        simp [hk, h]
      · simp only [get?, hk, if_false] at h
        exact List.mem_cons_of_mem _ (ih h)

theorem get?_isSome_iff {m : OrderedMap α} {key : String} : (m.get? key).isSome ↔ key ∈ m.keys := by
  rw [Option.isSome_iff_ne_none, ne_eq, get?_eq_none_iff, not_not]

-- Where no key stands twice, looking up a key finds any entry that has it.
theorem Distinct.get?_of_mem {m : OrderedMap α} (h : m.Distinct) {key : String} {v : α}
    (hm : (key, v) ∈ m) : m.get? key = some v := by
  induction m with
  | nil => cases hm
  | cons entry rest ih =>
      obtain ⟨k, w⟩ := entry
      have hd : k ∉ keys rest ∧ (keys rest).Nodup := List.nodup_cons.mp h
      cases List.mem_cons.mp hm with
      | inl he =>
          cases he
          simp [get?]
      | inr hr =>
          have hk : k ≠ key := fun he => hd.1 (he ▸ List.mem_map_of_mem (f := (·.1)) hr)
          simp only [get?, hk, if_false]
          exact ih hd.2 hr

-- What holds of every entry goes on to do so exactly if it holds of the new value.
theorem forall_mem_insert_iff {m : OrderedMap α} {key : String} {v : α} {P : α → Prop}
    (h : ∀ entry ∈ m, P entry.2) : (∀ entry ∈ m.insert key v, P entry.2) ↔ P v := by
  induction m with
  | nil => simp [insert]
  | cons entry rest ih =>
      obtain ⟨k, old⟩ := entry
      obtain ⟨hold, hrest⟩ := List.forall_mem_cons.mp h
      simp only [insert]
      split
      · simpa using fun _ => hrest
      · rw [List.forall_mem_cons, ih hrest]
        exact and_iff_right hold

-- The entries after an insert are the new one and those of other keys.
theorem forall_mem_insert_iff_of_distinct {m : OrderedMap α} (h : m.Distinct) (key : String) (v : α)
    {P : String × α → Prop} :
    (∀ entry ∈ m.insert key v, P entry) ↔ P (key, v) ∧ ∀ entry ∈ m, entry.1 ≠ key → P entry := by
  induction m with
  | nil => simp [insert]
  | cons entry rest ih =>
      obtain ⟨k, old⟩ := entry
      obtain ⟨hk, hrest⟩ : k ∉ keys rest ∧ (keys rest).Nodup := List.nodup_cons.mp h
      by_cases he : k = key
      · subst he
        have hother : ∀ entry ∈ rest, entry.1 ≠ k := fun entry hentry hsame =>
          hk (List.mem_map.mpr ⟨entry, hentry, hsame⟩)
        simp only [insert, if_true, List.forall_mem_cons, ne_eq, not_true, false_implies, true_and]
        exact and_congr_right fun _ => forall₂_congr fun entry hentry =>
          ⟨fun hP _ => hP, fun hP => hP (hother entry hentry)⟩
      · simp only [insert, he, if_false, List.forall_mem_cons, ih hrest, ne_eq, not_false_iff, true_implies]
        exact and_left_comm

-- A new key is put last.
theorem insert_of_not_mem {m : OrderedMap α} {key : String} (h : key ∉ m.keys) (v : α) :
    m.insert key v = m ++ [(key, v)] := by
  induction m with
  | nil => rfl
  | cons entry rest ih =>
      obtain ⟨k, w⟩ := entry
      obtain ⟨hne, hmem⟩ : ¬ key = k ∧ key ∉ keys rest := by simpa [keys] using h
      have hk : ¬ k = key := fun he => hne he.symm
      have hrest := ih hmem
      simp [insert, hk, hrest]

theorem distinct_nil : Distinct ([] : OrderedMap α) := List.nodup_nil

theorem distinct_singleton (entry : String × α) : Distinct [entry] := by
  simp [Distinct, keys]

theorem length_keys (m : OrderedMap α) : m.keys.length = m.length := List.length_map ..

theorem length_insert (m : OrderedMap α) (key : String) (v : α) :
    (m.insert key v).length = if key ∈ m.keys then m.length else m.length + 1 := by
  have hkeys := congrArg List.length (keys_insert m key v)
  rw [length_keys] at hkeys
  rw [hkeys]
  split <;> simp [length_keys]

-- Entries that are inserted one after the other.
section

variable {γ : Type} {key : γ → String} {value : γ → α} {entries : List γ}

theorem get?_foldl_insert_of_not_mem {other : String} (h : other ∉ entries.map key) (m : OrderedMap α) :
    (entries.foldl (fun m c => m.insert (key c) (value c)) m).get? other = m.get? other := by
  induction entries generalizing m with
  | nil => rfl
  | cons c rest ih =>
      rw [List.map_cons, List.mem_cons, not_or] at h
      rw [List.foldl_cons, ih h.2, get?_insert_of_ne m (value c) (Ne.symm h.1)]

theorem get?_foldl_insert_of_mem {c : γ} (hd : (entries.map key).Nodup) (hc : c ∈ entries)
    (m : OrderedMap α) :
    (entries.foldl (fun m c => m.insert (key c) (value c)) m).get? (key c) = some (value c) := by
  induction entries generalizing m with
  | nil => cases hc
  | cons first rest ih =>
      obtain ⟨hfirst, hrest⟩ := List.nodup_cons.mp hd
      rw [List.foldl_cons]
      rcases List.mem_cons.mp hc with rfl | hmem
      · rw [get?_foldl_insert_of_not_mem hfirst, get?_insert_self]
      · exact ih hrest hmem (m.insert (key first) (value first))

-- Entries with new names, no two of one, are put behind those that are there.
theorem foldl_insert_of_nodup {m : OrderedMap α} (h : (m.keys ++ entries.map key).Nodup) :
    entries.foldl (fun m c => m.insert (key c) (value c)) m =
      m ++ entries.map fun c => (key c, value c) := by
  induction entries generalizing m with
  | nil => simp
  | cons c rest ih =>
      have hnew : key c ∉ m.keys := by
        intro hmem
        exact (List.nodup_append.mp h).2.2 _ hmem _ (by simp) rfl
      have hinsert := insert_of_not_mem hnew (value c)
      have hrest : (keys (m.insert (key c) (value c)) ++ rest.map key).Nodup := by
        rw [hinsert]
        simpa [keys] using h
      rw [List.foldl_cons, ih hrest, hinsert]
      simp

theorem length_foldl_insert_le (key : γ → String) (value : γ → α) (entries : List γ) (m : OrderedMap α) :
    (entries.foldl (fun m c => m.insert (key c) (value c)) m).length ≤ m.length + entries.length := by
  induction entries generalizing m with
  | nil => exact Nat.le_refl _
  | cons c rest ih =>
      have hrest := ih (m.insert (key c) (value c))
      have hstep : (m.insert (key c) (value c)).length ≤ m.length + 1 := by
        rw [length_insert]
        split <;> omega
      rw [List.foldl_cons, List.length_cons]
      omega

-- There are as many new entries as were inserted only if none took the place of another.
theorem nodup_of_length_foldl_insert {m : OrderedMap α} (hm : m.Distinct)
    (h : (entries.foldl (fun m c => m.insert (key c) (value c)) m).length = m.length + entries.length) :
    (m.keys ++ entries.map key).Nodup := by
  induction entries generalizing m with
  | nil => simpa [Distinct] using hm
  | cons c rest ih =>
      have hrest := length_foldl_insert_le key value rest (m.insert (key c) (value c))
      rw [List.foldl_cons, List.length_cons] at h
      rw [length_insert] at hrest
      by_cases hmem : key c ∈ m.keys
      · rw [if_pos hmem] at hrest
        omega
      · have hlength : (m.insert (key c) (value c)).length = m.length + 1 := by
          rw [length_insert, if_neg hmem]
        have hnodup := ih (hm.insert (key c) (value c)) (by omega)
        rw [insert_of_not_mem hmem] at hnodup
        simpa [keys] using hnodup

theorem Distinct.foldl_insert {m : OrderedMap α} (h : m.Distinct) (key : γ → String) (value : γ → α)
    (entries : List γ) : Distinct (entries.foldl (fun m c => m.insert (key c) (value c)) m) := by
  induction entries generalizing m with
  | nil => exact h
  | cons c rest ih => exact ih (h.insert (key c) (value c))

-- Whatever was inserted last under a name stands there.
theorem get?_foldl_insert (entries : List γ) (m : OrderedMap α) (other : String) :
    (entries.foldl (fun m c => m.insert (key c) (value c)) m).get? other =
      ((entries.reverse.find? (key · == other)).map value).or (m.get? other) := by
  induction entries generalizing m with
  | nil => rfl
  | cons c rest ih =>
      rw [List.foldl_cons, ih, List.reverse_cons, List.find?_append, get?_insert]
      cases rest.reverse.find? (key · == other) with
      | some last => rfl
      | none =>
          by_cases hc : key c = other <;> simp [hc]

-- Every entry that is there was there before or has been inserted.
theorem mem_foldl_insert {m : OrderedMap α} (hm : m.Distinct) {entry : String × α}
    (h : entry ∈ entries.foldl (fun m c => m.insert (key c) (value c)) m) :
    entry ∈ m ∨ ∃ c ∈ entries, entry = (key c, value c) := by
  obtain ⟨name, v⟩ := entry
  have hget := (hm.foldl_insert key value entries).get?_of_mem h
  rw [get?_foldl_insert] at hget
  cases hlast : entries.reverse.find? (key · == name) with
  | none =>
      rw [hlast] at hget
      exact .inl (mem_of_get? hget)
  | some c =>
      have hname : key c = name := by simpa using List.find?_some hlast
      have hmem : c ∈ entries := List.mem_reverse.mp (List.mem_of_find?_eq_some hlast)
      rw [hlast] at hget
      refine .inr ⟨c, hmem, ?_⟩
      rw [hname, ← Option.some.inj hget]

end

theorem erase_sublist (m : OrderedMap α) (key : String) : (m.erase key).Sublist m := by
  induction m with
  | nil => exact .slnil
  | cons entry rest ih =>
      simp only [erase]
      split
      · exact List.sublist_cons_self entry rest
      · exact ih.cons_cons entry

theorem length_erase_of_mem {m : OrderedMap α} {key : String} (h : key ∈ m.keys) :
    (m.erase key).length + 1 = m.length := by
  induction m with
  | nil => cases h
  | cons entry rest ih =>
      obtain ⟨k, w⟩ := entry
      by_cases hk : k = key
      · simp [erase, hk]
      · have hrest : key ∈ keys rest := (List.mem_cons.mp h).resolve_left fun he => hk he.symm
        have hlength := ih hrest
        simp only [erase, hk, if_false, List.length_cons]
        omega

theorem get?_erase_self {m : OrderedMap α} (h : m.Distinct) (key : String) :
    (m.erase key).get? key = none := by
  induction m with
  | nil => rfl
  | cons entry rest ih =>
      obtain ⟨k, v⟩ := entry
      obtain ⟨hk, hrest⟩ : k ∉ keys rest ∧ (keys rest).Nodup := List.nodup_cons.mp h
      by_cases he : k = key
      · subst he
        simpa [erase] using get?_eq_none_iff.mpr hk
      · simpa [erase, get?, he] using ih hrest

theorem erase_eq_self_iff (m : OrderedMap α) (key : String) : m.erase key = m ↔ key ∉ m.keys := by
  induction m with
  | nil => simp [erase, keys]
  | cons entry rest ih =>
      obtain ⟨k, v⟩ := entry
      by_cases hk : k = key
      · subst hk
        have hshorter : rest ≠ (k, v) :: rest := List.ne_cons_self
        simp [erase, keys, hshorter]
      · have hk' : key ≠ k := Ne.symm hk
        simp only [keys] at ih
        simp [erase, keys, hk, hk', ih]

end OrderedMap

end DocStore
