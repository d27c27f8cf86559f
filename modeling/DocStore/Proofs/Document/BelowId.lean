import DocStore.Proofs.Document.Identifier
import DocStore.Proofs.Outcome

namespace DocStore

namespace Path

theorem ne_id_of_isBelowId {path : String} (h : isBelowId path = true) : path ≠ "_id" := by
  rintro rfl
  exact absurd h (by decide)

theorem segments_of_isBelowId {path : String} (h : isBelowId path = true) :
    ∃ next more, segments path = "_id" :: next :: more := by
  unfold isBelowId at h
  split at h
  · exact ⟨_, _, by assumption⟩
  · cases h

end Path

theorem Value.exists_document_of_same {v w : Value} (h : v.same w = true) :
    (∃ fields, v = .document fields) ↔ ∃ fields, w = .document fields := by
  cases v <;> cases w <;> simp_all [Value.same]

namespace Document

-- Whether the identifier of a document is a document.
def HasDocumentId (d : Document) : Prop := ∃ fields, d.id? = some (.document fields)

variable {d e update fields : Document} {op path : String} {v : Value} {result : Document × Bool}

theorem KeepsId.hasDocumentId_iff (h : d.KeepsId e) (hd : d.Identified) :
    e.HasDocumentId ↔ d.HasDocumentId := by
  obtain ⟨id, hid, _⟩ := hd
  rcases h with he | ⟨w, _, hew, hsame⟩
  · simp [HasDocumentId, he]
  · have hkind := Value.exists_document_of_same (hsame id hid)
    simpa [HasDocumentId, hid, hew] using hkind.symm

section

variable (hbelow : Path.isBelowId path = true)

include hbelow

theorem hasDocumentId_setPath (d : Document) (v : Value) : (d.setPath path v).1.HasDocumentId := by
  obtain ⟨next, more, hsegments⟩ := Path.segments_of_isBelowId hbelow
  unfold setPath
  rw [hsegments]
  exact ⟨_, OrderedMap.get?_insert_self d "_id" _⟩

theorem hasDocumentId_unsetPath (d : Document) : (d.unsetPath path).1.HasDocumentId := by
  obtain ⟨next, more, hsegments⟩ := Path.segments_of_isBelowId hbelow
  unfold unsetPath
  rw [hsegments]
  exact ⟨_, OrderedMap.get?_insert_self d "_id" _⟩

theorem applyOperator_below (h : applyOperator op path v d = .ok result) : result.1.HasDocumentId := by
  rcases applyOperator_cases h with ⟨hown, _⟩ | ⟨w, _, rfl⟩ | ⟨_, rfl⟩
  · exact absurd hown (Path.ne_id_of_isBelowId hbelow)
  · exact hasDocumentId_setPath hbelow d w
  · exact hasDocumentId_unsetPath hbelow d

end

-- A document stays one, for nothing but the same may take its place.
theorem applyOperator_hasDocumentId (h : applyOperator op path v d = .ok result)
    (hdoc : d.HasDocumentId ∨ Path.isBelowId path = true) : result.1.HasDocumentId := by
  by_cases hbelow : Path.isBelowId path = true
  · exact applyOperator_below hbelow h
  obtain ⟨current, hcurrent⟩ : d.HasDocumentId := hdoc.resolve_right hbelow
  by_cases hid : path = "_id"
  · subst hid
    rcases applyOperator_id h with hsame | ⟨hset, hsame⟩
    · exact ⟨current, hsame ▸ hcurrent⟩
    · have hkind := Value.exists_document_of_same (hsame _ hcurrent)
      obtain ⟨own, rfl⟩ := hkind.mp ⟨current, rfl⟩
      exact ⟨own, hset⟩
  · exact ⟨current, (id?_applyOperator (by simpa using hbelow) hid h).trans hcurrent⟩

theorem applyFields_hasDocumentId {changed : Bool} (h : (applyFields op fields d).outcome = .ok changed)
    (hdoc : d.HasDocumentId ∨ ∃ field ∈ fields, Path.isBelowId field.1 = true) :
    (applyFields op fields d).document.HasDocumentId := by
  induction fields generalizing d changed with
  | nil => exact hdoc.resolve_right fun hfield => by simp at hfield
  | cons field rest ih =>
      obtain ⟨path, v⟩ := field
      unfold applyFields at h ⊢
      split at h
      · cases h
      · next next own hstep =>
          obtain ⟨others, hothers, _⟩ := Except.map_eq_ok_iff.mp h
          refine ih hothers ?_
          rcases hdoc with hd | ⟨field, hmem, hbelow⟩
          · exact Or.inl (applyOperator_hasDocumentId hstep (Or.inl hd))
          · rcases List.mem_cons.mp hmem with rfl | hrest
            · exact Or.inl (applyOperator_hasDocumentId hstep (Or.inr hbelow))
            · exact Or.inr ⟨field, hrest, hbelow⟩

theorem applyUpdate_hasDocumentId {changed : Bool} (h : (update.applyUpdate d).outcome = .ok changed)
    (hdoc : d.HasDocumentId ∨ update.sparesId = false) : (update.applyUpdate d).document.HasDocumentId := by
  induction update generalizing d changed with
  | nil => exact hdoc.resolve_right (by decide)
  | cons entry rest ih =>
      obtain ⟨op, arg⟩ := entry
      cases arg with
      | document fields =>
          unfold applyUpdate at h ⊢
          dsimp only at h ⊢
          split at h
          · cases h
          · next own hfirst =>
              obtain ⟨others, hothers, _⟩ := Except.map_eq_ok_iff.mp h
              refine ih hothers ?_
              rcases hdoc with hd | hbelow
              · exact Or.inl (applyFields_hasDocumentId hfirst (Or.inl hd))
              · simp only [sparesId, List.all_cons, Bool.and_eq_false_iff] at hbelow
                rcases hbelow with hown | hrest
                · have hfield : ∃ field ∈ fields, Path.isBelowId field.1 = true := by simpa using hown
                  exact Or.inl (applyFields_hasDocumentId hfirst (Or.inr hfield))
                · exact Or.inr hrest
      | _ => cases h

theorem applyUpdate_loses_id (hd : d.Identified) (hdoc : ¬ d.HasDocumentId) {changed : Bool}
    (h : (update.applyUpdate d).outcome = .ok changed) (hspare : update.sparesId = false) :
    ¬ d.KeepsId (update.applyUpdate d).document := by
  intro hkeep
  have hbelow := applyUpdate_hasDocumentId h (Or.inr hspare)
  exact hdoc ((hkeep.hasDocumentId_iff hd).mp hbelow)

-- An update that succeeds leaves an identifier that is no document exactly if it
-- writes nowhere below it.
theorem applyUpdate_keepsId_iff (hd : d.Identified) (hdoc : ¬ d.HasDocumentId)
    (hwf : (Value.document update).WellFormed) {changed : Bool}
    (h : (update.applyUpdate d).outcome = .ok changed) :
    d.KeepsId (update.applyUpdate d).document ↔ update.sparesId = true := by
  refine ⟨fun hkeep => ?_, fun hspare => applyUpdate_keepsId hspare hwf⟩
  by_contra hspare
  exact applyUpdate_loses_id hd hdoc h (by simpa using hspare) hkeep

-- An update of one operator is what this one does.
theorem applyUpdate_singleton (op : String) (fields d : Document) :
    applyUpdate [(op, .document fields)] d = applyFields op fields d := by
  unfold applyUpdate
  cases hfirst : applyFields op fields d with
  | mk next outcome => cases outcome <;> simp [applyUpdate, Except.map]

-- A path that is set where there is nothing is a change.
theorem put_nil_changes (segments : List String) (v : Value) (h : segments ≠ []) :
    (put [] segments v).2 = true := by
  induction segments with
  | nil => exact absurd rfl h
  | cons segment rest ih =>
      cases rest with
      | nil => rfl
      | cons next more => exact ih (List.cons_ne_nil next more)

theorem setPath_below_changes (hdoc : ¬ d.HasDocumentId) (hbelow : Path.isBelowId path = true) (v : Value) :
    (d.setPath path v).2 = true := by
  obtain ⟨next, more, hsegments⟩ := Path.segments_of_isBelowId hbelow
  have hsub : d.subdocument "_id" = [] := by
    unfold subdocument document?
    cases hid : d.get? "_id" with
    | none => rfl
    | some id =>
        cases id with
        | document own => exact absurd ⟨own, hid⟩ hdoc
        | _ => rfl
  unfold setPath
  rw [hsegments]
  simp only [put, hsub]
  exact put_nil_changes (next :: more) v (List.cons_ne_nil next more)

-- Elsewhere than below it, the kind of an identifier that is there is left alone.
theorem applyOperator_id_kind (hd : d.id?.isSome) (hbelow : Path.isBelowId path = false)
    (h : applyOperator op path v d = .ok result) :
    result.1.id?.isSome ∧ (result.1.HasDocumentId ↔ d.HasDocumentId) := by
  by_cases hid : path = "_id"
  · subst hid
    rcases applyOperator_id h with hsame | ⟨hset, hsame⟩
    · rw [hsame]
      exact ⟨hd, Iff.rfl⟩
    · obtain ⟨current, hcurrent⟩ := Option.isSome_iff_exists.mp hd
      have hkind := Value.exists_document_of_same (hsame current hcurrent)
      simpa [HasDocumentId, hset, hcurrent] using hkind.symm
  · have hsame := id?_applyOperator hbelow hid h
    simp [HasDocumentId, hsame, hd]

-- To set something below an identifier that is no document counts as a change.
theorem applyFields_set_changes (hd : d.id?.isSome) (hdoc : ¬ d.HasDocumentId) {changed : Bool}
    (h : (applyFields "$set" fields d).outcome = .ok changed)
    (hfield : ∃ field ∈ fields, Path.isBelowId field.1 = true) : changed = true := by
  induction fields generalizing d changed with
  | nil => simp at hfield
  | cons field rest ih =>
      obtain ⟨path, v⟩ := field
      unfold applyFields at h
      split at h
      · cases h
      · next next own hstep =>
          obtain ⟨others, hothers, rfl⟩ := Except.map_eq_ok_iff.mp h
          by_cases hbelow : Path.isBelowId path = true
          · have hset : applyOperator "$set" path v d = .ok (d.setPath path v) := by
              have hid := Path.ne_id_of_isBelowId hbelow
              simp only [applyOperator, hid, false_and, if_false, if_true]
              split <;> rfl
            have hown : own = (d.setPath path v).2 :=
              congrArg Prod.snd (Except.ok.inj (hstep.symm.trans hset))
            simp [hown, setPath_below_changes hdoc hbelow v]
          · have hkind := applyOperator_id_kind hd (by simpa using hbelow) hstep
            have hrest : ∃ field ∈ rest, Path.isBelowId field.1 = true := by
              obtain ⟨field, hmem, hfield⟩ := hfield
              rcases List.mem_cons.mp hmem with rfl | hmore
              · exact absurd hfield hbelow
              · exact ⟨field, hmore, hfield⟩
            have hchanged := ih hkind.1 (fun hnext => hdoc (hkind.2.mp hnext)) hothers hrest
            simp [hchanged]

end Document

end DocStore
