import DocStore.Proofs.Collection.Identifier
import DocStore.Proofs.Document.BelowId
import DocStore.Proofs.Store.Atomicity

namespace DocStore.Collection

variable {name : String} {selector update : Document} {onlyFirst : Bool} {docs : List Document}
  {d e : Document} {report : UpdateReport}

theorem update_of_no_upsert (name : String) (selector update : Document) (onlyFirst : Bool)
    (fresh : ObjectId) (docs : List Document) :
    Collection.update name selector update false onlyFirst fresh docs =
      updateEach name selector update onlyFirst docs := by
  unfold Collection.update
  dsimp only
  split
  · rfl
  · rw [if_neg (by simp)]

theorem updated_cases (h : updated selector update d = .ok e) :
    e = d ∨ Selector.holds d selector = .ok true ∧ (update.applyUpdate d).outcome = .ok true ∧
      e = (update.applyUpdate d).document := by
  unfold updated at h
  split at h
  · cases h
  · exact Or.inl (Except.ok.inj h).symm
  · next hselected =>
      dsimp only at h
      split at h
      · cases h
      · next changed houtcome =>
          cases changed with
          | false => exact Or.inl (Except.ok.inj h).symm
          | true => exact Or.inr ⟨hselected, houtcome, (Except.ok.inj h).symm⟩

theorem updated_of_unselected (h : Selector.holds d selector = .ok false) : updated selector update d = .ok d := by
  simp [updated, h]

-- Wherever an update breaks off, each document is as it was or as the update makes it.
theorem updateEach_documents (name : String) (selector update : Document) (onlyFirst : Bool)
    (docs : List Document) :
    List.Forall₂ (fun d e => e = d ∨ updated selector update d = .ok e) docs
      (updateEach name selector update onlyFirst docs).documents := by
  have hsame (rest : List Document) :
      List.Forall₂ (fun d e => e = d ∨ updated selector update d = .ok e) rest rest :=
    List.forall₂_same.mpr fun d _ => Or.inl rfl
  induction docs with
  | nil => exact .nil
  | cons d rest ih =>
      unfold updateEach
      split
      · exact hsame _
      · exact .cons (Or.inl rfl) ih
      · next hselected =>
          dsimp only
          split
          · exact hsame _
          · next changed houtcome =>
              refine .cons (Or.inr ?_) ?_
              · simp [updated, hselected, houtcome]
              · split
                · exact hsame rest
                · exact ih

-- An update of all that is selected succeeds by making something of every document.
theorem updateEach_documents_of_ok (h : (updateEach name selector update false docs).outcome = .ok report) :
    List.Forall₂ (fun d e => updated selector update d = .ok e) docs
      (updateEach name selector update false docs).documents := by
  induction docs generalizing report with
  | nil => exact .nil
  | cons d rest ih =>
      unfold updateEach at h ⊢
      cases hselected : Selector.holds d selector with
      | error err => simp [hselected] at h
      | ok hit =>
          cases hit with
          | false =>
              simp only [hselected, keep] at h ⊢
              exact .cons (updated_of_unselected hselected) (ih h)
          | true =>
              simp only [hselected] at h ⊢
              split at h
              · cases h
              · next changed houtcome =>
                  obtain ⟨inner, hinner, _⟩ := Except.map_eq_ok_iff.mp h
                  exact .cons (by simp [updated, hselected, houtcome]) (ih hinner)

-- Whether the identifier is kept so far as the update spares it: always if it does,
-- and if it does not and the identifier is no document, only by leaving all as it is.
structure KeptUnder (update d e : Document) : Prop where
  spared : update.sparesId = true → d.KeepsId e
  exact : ¬ d.HasDocumentId → (d.KeepsId e ↔ e = d ∨ update.sparesId = true)

theorem KeptUnder.refl (update d : Document) : KeptUnder update d d :=
  ⟨fun _ => Document.KeepsId.refl d, fun _ => iff_of_true (Document.KeepsId.refl d) (Or.inl rfl)⟩

theorem updated_keptUnder (hd : d.Identified) (hwf : (Value.document update).WellFormed)
    (h : e = d ∨ updated selector update d = .ok e) : KeptUnder update d e := by
  have hcases : e = d ∨ (update.applyUpdate d).outcome = .ok true ∧ e = (update.applyUpdate d).document := by
    rcases h with hsame | hupdated
    · exact Or.inl hsame
    · exact (updated_cases hupdated).imp_right And.right
  rcases hcases with rfl | ⟨houtcome, rfl⟩
  · exact KeptUnder.refl update e
  · refine ⟨fun hspare => Document.applyUpdate_keepsId hspare hwf, fun hdoc => ?_⟩
    have hiff := Document.applyUpdate_keepsId_iff hd hdoc hwf houtcome
    refine ⟨fun hkeep => Or.inr (hiff.mp hkeep), fun hleft => ?_⟩
    rcases hleft with hsame | hspare
    · exact hsame.symm ▸ Document.KeepsId.refl d
    · exact hiff.mpr hspare

theorem updateEach_keptUnder (hdocs : Identified docs) (hwf : (Value.document update).WellFormed)
    (name : String) (selector : Document) (onlyFirst : Bool) :
    List.Forall₂ (KeptUnder update) docs (updateEach name selector update onlyFirst docs).documents := by
  have hall := (List.forall₂_and_left _ _).mpr ⟨hdocs, updateEach_documents name selector update onlyFirst docs⟩
  exact hall.imp fun _ _ h => updated_keptUnder h.1 hwf h.2

-- To set something below the identifiers of what is selected costs the first of
-- these documents its identifier, unless that is a document.
theorem updateEach_set_loses_id {fields : Document} (hdocs : Identified docs)
    (hplain : ∀ d ∈ docs, ¬ d.HasDocumentId)
    (hbelow : ∃ field ∈ fields, Path.isBelowId field.1 = true)
    (h : (updateEach name selector [("$set", .document fields)] onlyFirst docs).outcome = .ok report)
    (hmatched : report.matched ≠ 0) :
    ¬ List.Forall₂ Document.KeepsId docs
      (updateEach name selector [("$set", .document fields)] onlyFirst docs).documents := by
  induction docs generalizing report with
  | nil =>
      cases h
      exact absurd rfl hmatched
  | cons d rest ih =>
      obtain ⟨hd, hrest⟩ := List.forall_mem_cons.mp hdocs
      obtain ⟨hdplain, hrestplain⟩ := List.forall_mem_cons.mp hplain
      unfold updateEach at h ⊢
      cases hselected : Selector.holds d selector with
      | error err => simp [hselected] at h
      | ok hit =>
          cases hit with
          | false =>
              simp only [hselected, keep] at h ⊢
              exact fun hkeep => ih hrest hrestplain h hmatched (List.forall₂_cons.mp hkeep).2
          | true =>
              simp only [hselected] at h ⊢
              split at h
              · cases h
              · next changed houtcome =>
                  have hchanges : changed = true := by
                    rw [Document.applyUpdate_singleton] at houtcome
                    obtain ⟨id, hid, _⟩ := hd
                    exact Document.applyFields_set_changes (by simp [hid]) hdplain houtcome hbelow
                  have hspare : Document.sparesId [("$set", .document fields)] = false := by
                    simpa [Document.sparesId] using hbelow
                  have hloses := Document.applyUpdate_loses_id hd hdplain houtcome hspare
                  rw [if_pos hchanges]
                  exact fun hkeep => hloses (List.forall₂_cons.mp hkeep).1

end DocStore.Collection
