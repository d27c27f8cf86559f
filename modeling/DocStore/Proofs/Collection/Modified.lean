import DocStore.Proofs.Collection.Selection
import DocStore.Proofs.Collection.Update
import DocStore.Proofs.Document.Change
import DocStore.Proofs.Value.NaN

namespace DocStore.Collection

-- At how many positions the documents before and after are not the same.
def differing (before after : List Document) : Nat :=
  (before.zip after).countP fun pair => !pair.1.same pair.2

-- Whether an update counts as a change to a document and leaves the same document.
def restores (update d : Document) : Bool :=
  match (update.applyUpdate d).outcome with
  | .ok true => d.same (update.applyUpdate d).document
  | _ => false

-- The documents that an update works on.
def reached (selector : Document) (onlyFirst : Bool) (docs : List Document) : List Document :=
  let selected := docs.filter (Selector.passes selector)
  if onlyFirst then selected.take 1 else selected

-- Whether no number in any document is NaN, and no document has a key twice.
structure Comparable (docs : List Document) : Prop where
  wellFormed : ∀ d ∈ docs, (Value.document d).WellFormed
  noNaN : ∀ d ∈ docs, (Value.document d).hasNaN = false

-- What a report says of the documents before and after: those that were not selected are as they were,
-- and beside the documents that differ some may have been counted that do not.
structure Reports (selector : Document) (before after : List Document) (modified excess : Nat) : Prop where
  selected : List.Forall₂ (fun d e => e = d ∨ Selector.holds d selector = .ok true) before after
  modified : modified = differing before after + excess

variable {name : String} {selector update replacement d : Document} {onlyFirst : Bool}
  {fresh : ObjectId} {docs rest : List Document} {report : UpdateReport}

theorem Comparable.same (h : Comparable docs) (hd : d ∈ docs) : d.same d = true :=
  (Value.same_self_iff (h.wellFormed d hd)).mpr (h.noNaN d hd)

theorem Comparable.tail (h : Comparable (d :: rest)) : Comparable rest where
  wellFormed e he := h.wellFormed e (List.mem_cons_of_mem d he)
  noNaN e he := h.noNaN e (List.mem_cons_of_mem d he)

theorem mem_of_mem_reached (h : d ∈ reached selector onlyFirst docs) : d ∈ docs := by
  unfold reached at h
  split at h
  · exact List.mem_of_mem_filter (List.mem_of_mem_take h)
  · exact List.mem_of_mem_filter h

theorem countP_cons_toNat {α : Type} (p : α → Bool) (a : α) (l : List α) :
    (a :: l).countP p = l.countP p + (p a).toNat := by
  rw [List.countP_cons]
  cases p a <;> rfl

theorem differing_cons (d e : Document) (rest others : List Document) :
    differing (d :: rest) (e :: others) = differing rest others + (!d.same e).toNat :=
  countP_cons_toNat _ (d, e) (rest.zip others)

theorem differing_self (h : Comparable docs) : differing docs docs = 0 := by
  induction docs with
  | nil => rfl
  | cons d rest ih =>
      rw [differing_cons, ih h.tail, h.same List.mem_cons_self]
      rfl

theorem differing_cons_self (h : Comparable (d :: rest)) (others : List Document) :
    differing (d :: rest) (d :: others) = differing rest others := by
  rw [differing_cons, h.same List.mem_cons_self]
  rfl

-- What an update counts of one document, and what has become of it.
theorem counted_eq {changed : Bool} (hsame : d.same d = true)
    (h : (update.applyUpdate d).outcome = .ok changed) :
    changed.toNat = (!d.same (if changed then (update.applyUpdate d).document else d)).toNat +
      (restores update d).toNat := by
  unfold restores
  rw [h]
  cases changed with
  | false => simp [hsame]
  | true => cases hkept : d.same (update.applyUpdate d).document <;> simp [hkept]

theorem updateEach_modified (hdocs : Comparable docs)
    (h : (updateEach name selector update onlyFirst docs).outcome = .ok report) :
    report.modified = differing docs (updateEach name selector update onlyFirst docs).documents +
      (reached selector onlyFirst docs).countP (restores update) := by
  induction docs generalizing report with
  | nil =>
      cases h
      cases onlyFirst <;> rfl
  | cons d rest ih =>
      unfold updateEach at h ⊢
      cases hselected : Selector.holds d selector with
      | error err => simp [hselected] at h
      | ok hit =>
          have hpasses : Selector.passes selector d = hit := by rw [Selector.passes, hselected]
          cases hit with
          | false =>
              simp only [hselected, keep] at h ⊢
              have hreached : reached selector onlyFirst (d :: rest) = reached selector onlyFirst rest := by
                simp [reached, hpasses]
              rw [differing_cons_self hdocs, hreached]
              exact ih hdocs.tail h
          | true =>
              simp only [hselected] at h ⊢
              split at h
              · cases h
              · next changed houtcome =>
                  obtain ⟨inner, hinner, rfl⟩ := Except.map_eq_ok_iff.mp h
                  have hcounted := counted_eq (hdocs.same List.mem_cons_self) houtcome
                  dsimp only
                  rw [differing_cons]
                  cases onlyFirst with
                  | true =>
                      cases hinner
                      have hreached : reached selector true (d :: rest) = [d] := by simp [reached, hpasses]
                      have hrest : differing rest rest = 0 := differing_self hdocs.tail
                      rw [hreached, countP_cons_toNat, List.countP_nil]
                      simp only [if_true, hrest]
                      omega
                  | false =>
                      have hreached : reached selector false (d :: rest) = d :: reached selector false rest := by
                        simp [reached, hpasses]
                      have hrest := ih hdocs.tail hinner
                      rw [hreached, countP_cons_toNat]
                      simp only [Bool.false_eq_true, if_false]
                      omega

-- An update leaves what it does not select, whether it succeeds or not.
theorem updateEach_selected (name : String) (selector update : Document) (onlyFirst : Bool)
    (docs : List Document) :
    List.Forall₂ (fun d e => e = d ∨ Selector.holds d selector = .ok true) docs
      (updateEach name selector update onlyFirst docs).documents := by
  refine (updateEach_documents name selector update onlyFirst docs).imp fun d e h => ?_
  rcases h with rfl | hupdated
  · exact .inl rfl
  · exact (updated_cases hupdated).imp_right And.left

theorem updateEach_reports (hdocs : Comparable docs)
    (h : (updateEach name selector update onlyFirst docs).outcome = .ok report) :
    Reports selector docs (updateEach name selector update onlyFirst docs).documents report.modified
      ((reached selector onlyFirst docs).countP (restores update)) :=
  ⟨updateEach_selected name selector update onlyFirst docs, updateEach_modified hdocs h⟩

theorem replaceFirst_reports (hdocs : Comparable docs)
    (h : (replaceFirst name selector replacement fresh docs).outcome = .ok report) :
    Reports selector docs (replaceFirst name selector replacement fresh docs).documents report.modified 0 := by
  induction docs with
  | nil =>
      cases h
      exact ⟨.nil, rfl⟩
  | cons d rest ih =>
      unfold replaceFirst at h ⊢
      cases hselected : Selector.holds d selector with
      | error err => simp [hselected] at h
      | ok hit =>
          cases hit with
          | false =>
              simp only [hselected, keep] at h ⊢
              obtain ⟨hrest, hmodified⟩ := ih hdocs.tail h
              refine ⟨.cons (.inl rfl) hrest, ?_⟩
              rw [differing_cons_self hdocs]
              exact hmodified
          | true =>
              simp only [hselected] at h ⊢
              split at h
              · cases h
              · next hkeeps =>
                  cases h
                  rw [if_neg hkeeps]
                  refine ⟨.cons (.inr hselected) (List.forall₂_same.mpr fun e _ => .inl rfl), ?_⟩
                  dsimp only
                  rw [differing_cons, differing_self hdocs.tail]
                  omega

theorem replaceOne_of_no_upsert (name : String) (selector replacement : Document) (fresh : ObjectId)
    (docs : List Document) :
    replaceOne name selector replacement false fresh docs =
      replaceFirst name selector replacement fresh docs := by
  unfold replaceOne
  dsimp only
  split
  · rfl
  · rw [if_neg (by simp)]

-- Nothing is restored by an update whose paths do not lead to each other or through each other.
theorem restores_eq_false (hupdate : (Value.document update).WellFormed)
    (hapart : update.paths.Pairwise Path.Apart) (hd : (Value.document d).WellFormed) :
    restores update d = false := by
  unfold restores
  split
  · next houtcome => exact Document.not_same_applyUpdate hd hupdate hapart houtcome
  · rfl

end DocStore.Collection
