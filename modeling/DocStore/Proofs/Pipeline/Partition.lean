import Mathlib.Data.List.Induction
import DocStore.Proofs.Value.NaN

namespace DocStore.Pipeline

-- Puts a document with its key into the first part that has the key.
def assign (d : Document) (key : Value) : List (Value × List Document) → List (Value × List Document)
  | [] => [(key, [d])]
  | part :: rest =>
    if part.1.same key then (part.1, part.2 ++ [d]) :: rest else part :: assign d key rest

def partition (keyOf : Document → Value) (docs : List Document) : List (Value × List Document) :=
  docs.foldl (fun parts d => assign d (keyOf d) parts) []

-- The keys that are not the same as one in front of them.
def newKeys : List Value → List Value → List Value
  | _, [] => []
  | earlier, k :: rest =>
    if earlier.any (·.same k) then newKeys (earlier ++ [k]) rest
    else k :: newKeys (earlier ++ [k]) rest

def firstSeen (keys : List Value) : List Value := newKeys [] keys

section

variable {keyOf : Document → Value} {docs : List Document} {d : Document} {keys : List Value} {key : Value}

theorem partition_concat (keyOf : Document → Value) (docs : List Document) (d : Document) :
    partition keyOf (docs ++ [d]) = assign d (keyOf d) (partition keyOf docs) := by
  simp [partition]

theorem assign_perm (d : Document) (key : Value) (parts : List (Value × List Document)) :
    ((assign d key parts).flatMap (·.2)).Perm (parts.flatMap (·.2) ++ [d]) := by
  induction parts with
  | nil => exact List.Perm.refl [d]
  | cons part rest ih =>
      unfold assign
      split
      · simp only [List.flatMap_cons, List.append_assoc]
        exact List.perm_append_comm.append_left part.2
      · simp only [List.flatMap_cons, List.append_assoc]
        exact ih.append_left part.2

-- Every document comes into one part.
theorem partition_perm (keyOf : Document → Value) (docs : List Document) :
    ((partition keyOf docs).flatMap (·.2)).Perm docs := by
  induction docs using List.reverseRecOn with
  | nil => exact List.Perm.refl []
  | append_singleton rest d ih =>
      rw [partition_concat]
      exact (assign_perm d (keyOf d) _).trans (ih.append_right [d])

theorem newKeys_concat (earlier keys : List Value) (k : Value) :
    newKeys earlier (keys ++ [k]) =
      newKeys earlier keys ++ if (earlier ++ keys).any (·.same k) then [] else [k] := by
  induction keys generalizing earlier with
  | nil => simp [newKeys]
  | cons first rest ih =>
      simp only [List.cons_append, newKeys, ih, List.append_assoc, List.nil_append]
      split <;> rfl

theorem firstSeen_concat (keys : List Value) (k : Value) :
    firstSeen (keys ++ [k]) = firstSeen keys ++ if keys.any (·.same k) then [] else [k] :=
  newKeys_concat [] keys k

theorem newKeys_sublist (earlier keys : List Value) : (newKeys earlier keys).Sublist keys := by
  induction keys generalizing earlier with
  | nil => exact List.Sublist.refl []
  | cons k rest ih =>
      unfold newKeys
      split
      · exact (ih _).cons k
      · exact (ih _).cons_cons k

theorem firstSeen_subset (keys : List Value) : firstSeen keys ⊆ keys := (newKeys_sublist [] keys).subset

-- No key is the same as one that is seen before it.
theorem firstSeen_pairwise (keys : List Value) : (firstSeen keys).Pairwise fun k l => k.same l = false := by
  induction keys using List.reverseRecOn with
  | nil => exact List.Pairwise.nil
  | append_singleton rest k ih =>
      rw [firstSeen_concat]
      split
      · rwa [List.append_nil]
      · next hnew =>
          refine List.pairwise_append.mpr ⟨ih, List.pairwise_singleton _ k, fun r hr l hl => ?_⟩
          rw [List.mem_singleton.mp hl, Bool.eq_false_iff]
          exact fun hsame => hnew (List.any_eq_true.mpr ⟨r, firstSeen_subset rest hr, hsame⟩)

-- What a key is the same as, the first of its kind is the same as too.
theorem exists_firstSeen (h : ∃ k ∈ keys, k.same key = true) : ∃ r ∈ firstSeen keys, r.same key = true := by
  induction keys using List.reverseRecOn generalizing key with
  | nil => simp at h
  | append_singleton rest k ih =>
      obtain ⟨other, hother, hsame⟩ := h
      rw [firstSeen_concat]
      rcases List.mem_append.mp hother with hearlier | hlast
      · obtain ⟨r, hr, hrsame⟩ := ih ⟨other, hearlier, hsame⟩
        exact ⟨r, List.mem_append_left _ hr, hrsame⟩
      · obtain rfl := List.mem_singleton.mp hlast
        by_cases hseen : rest.any (·.same other) = true
        · -- one that is seen before has been seen first
          obtain ⟨r, hr, hrsame⟩ := ih (List.any_eq_true.mp hseen)
          exact ⟨r, List.mem_append_left _ hr, Value.same_trans hrsame hsame⟩
        · rw [if_neg hseen]
          exact ⟨other, by simp, hsame⟩

theorem exists_firstSeen_iff :
    (∃ r ∈ firstSeen keys, r.same key = true) ↔ ∃ k ∈ keys, k.same key = true :=
  ⟨fun ⟨r, hr, hsame⟩ => ⟨r, firstSeen_subset keys hr, hsame⟩, exists_firstSeen⟩

theorem any_firstSeen (keys : List Value) (key : Value) :
    (firstSeen keys).any (·.same key) = keys.any (·.same key) := by
  rw [Bool.eq_iff_iff, List.any_eq_true, List.any_eq_true]
  exact exists_firstSeen_iff

-- No two of the keys that are seen first are the same, either way round.
theorem firstSeen_apart (hwf : ∀ k ∈ keys, k.WellFormed) :
    (firstSeen keys).Pairwise fun k l => k.same l = false ∧ l.same k = false := by
  refine (firstSeen_pairwise keys).imp_of_mem fun {k l} hk hl hapart => ⟨hapart, ?_⟩
  rw [Bool.eq_false_iff]
  intro hsame
  have hk' := hwf k (firstSeen_subset keys hk)
  have hl' := hwf l (firstSeen_subset keys hl)
  rw [Value.same_symm hl' hk' hsame] at hapart
  cases hapart

-- So a key is the same as one of them at most.
theorem firstSeen_one (hwf : ∀ k ∈ keys, k.WellFormed) (hkey : key.WellFormed) :
    (firstSeen keys).Pairwise fun k l => k.same key = true → l.same key = false := by
  refine (firstSeen_pairwise keys).imp_of_mem fun {k l} _ hl hapart hk => ?_
  rw [Bool.eq_false_iff]
  intro hboth
  rw [Value.same_trans hk (Value.same_symm (hwf l (firstSeen_subset keys hl)) hkey hboth)] at hapart
  cases hapart

theorem countP_eq_one {α : Type} {p : α → Bool} {l : List α}
    (hone : l.Pairwise fun a b => p a = true → p b = false) (h : ∃ a ∈ l, p a = true) : l.countP p = 1 := by
  induction l with
  | nil => simp at h
  | cons a rest ih =>
      obtain ⟨ha, hrest⟩ := List.pairwise_cons.mp hone
      by_cases hp : p a = true
      · have hnone : rest.countP p = 0 := List.countP_eq_zero.mpr fun b hb => by simp [ha b hb hp]
        rw [List.countP_cons_of_pos hp, hnone]
      · rw [List.countP_cons_of_neg hp]
        obtain ⟨b, hb, hpb⟩ := h
        exact ih hrest ⟨b, (List.mem_cons.mp hb).resolve_left fun he => hp (he ▸ hpb), hpb⟩

-- A document is put into every part that has its key, of which there is one at most.
theorem assign_map {members : Value → List Document}
    (hone : keys.Pairwise fun k l => k.same key = true → l.same key = false) :
    assign d key (keys.map fun k => (k, members k)) =
      (keys.map fun k => (k, if k.same key then members k ++ [d] else members k)) ++
        if keys.any (·.same key) then [] else [(key, [d])] := by
  induction keys with
  | nil => rfl
  | cons k rest ih =>
      obtain ⟨hk, hrest⟩ := List.pairwise_cons.mp hone
      simp only [List.map_cons, assign]
      split
      · next hsame =>
          have hkept : rest.map (fun l => (l, if l.same key then members l ++ [d] else members l)) =
              rest.map fun l => (l, members l) :=
            List.map_congr_left fun l hl => by simp [hk l hl hsame]
          simp [hsame, hkept]
      · next hother =>
          have hdiffers : k.same key = false := by simpa using hother
          simp [hdiffers, ih hrest]

variable (hwf : ∀ d ∈ docs, (keyOf d).WellFormed) (hnan : ∀ d ∈ docs, (keyOf d).hasNaN = false)

include hwf hnan

-- Where keys hold no NaN, there is one part for each key that is seen first, and in
-- it all documents whose key is the same.
theorem partition_eq_map : partition keyOf docs =
    (firstSeen (docs.map keyOf)).map fun k => (k, docs.filter fun d => k.same (keyOf d)) := by
  induction docs using List.reverseRecOn with
  | nil => rfl
  | append_singleton rest d ih =>
      obtain ⟨hrest, hd⟩ := List.forall_mem_append.mp hwf
      obtain ⟨hrestnan, hdnan⟩ := List.forall_mem_append.mp hnan
      have hkey : (keyOf d).WellFormed := hd d List.mem_cons_self
      have hself : (keyOf d).same (keyOf d) = true :=
        (Value.same_self_iff hkey).mpr (hdnan d List.mem_cons_self)
      have hkeys : ∀ k ∈ rest.map keyOf, k.WellFormed := List.forall_mem_map.mpr hrest
      have hone := firstSeen_one hkeys hkey
      have hany := any_firstSeen (rest.map keyOf) (keyOf d)
      rw [partition_concat, ih hrest hrestnan, assign_map hone, hany, List.map_append, List.map_singleton,
        firstSeen_concat, List.map_append]
      congr 1
      · refine List.map_congr_left fun k _ => ?_
        rw [List.filter_append, List.filter_singleton]
        split <;> simp_all
      · split
        · rfl
        · next hnew =>
            have hothers : rest.filter (fun other => (keyOf d).same (keyOf other)) = [] := by
              refine List.filter_eq_nil_iff.mpr fun other hother hsame => hnew ?_
              exact List.any_eq_true.mpr ⟨keyOf other, List.mem_map_of_mem hother,
                Value.same_symm hkey (hrest other hother) hsame⟩
            simp [List.filter_append, hothers, hself]

end

end DocStore.Pipeline
