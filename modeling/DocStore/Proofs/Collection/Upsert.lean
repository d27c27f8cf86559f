import DocStore.Proofs.Collection.Save
import DocStore.Proofs.Document.Seed

namespace DocStore

namespace Collection

-- Whether an upsert takes a term over so that it is read again, or the term asks for nothing at all.
def CarriedOver (entry : String × Value) : Prop :=
  (Document.isTopField entry.1 = true ∧ Path.Readable entry.1) ∨ entry.2.demanded? = some .null

-- Whether some document is selected, or else the one that an upsert adds is.
def Settles (selector : Document) (docs : List Document) : Prop :=
  (∃ d ∈ docs, Selector.holds d selector = .ok true) ∨ ∀ entry ∈ selector, CarriedOver entry

section

variable {name : String} {selector fields created d e : Document} {fresh : ObjectId} {docs : List Document}
  {entry : String × Value} {v : Value} {report : UpdateReport}

theorem spares_of_set {changed : Bool}
    (h : (Document.applyUpdate [("$set", .document fields)] d).outcome = .ok changed) :
    Document.Spares fields.keys d (Document.applyUpdate [("$set", .document fields)] d).document := by
  have hpaths : Document.paths [("$set", .document fields)] = fields.keys := by
    simp [Document.paths, Value.document?]
  exact hpaths ▸ Document.applyUpdate_spares h

theorem updateCreates_eq_some {update : Document} (h : updateCreates selector update fresh = some created) :
    ∃ changed, (update.applyUpdate selector.upsertSeed).outcome = .ok changed ∧
      created = (update.applyUpdate selector.upsertSeed).document.withId none fresh := by
  unfold updateCreates at h
  dsimp only at h
  split at h
  · next changed houtcome =>
      cases h
      exact ⟨changed, houtcome, rfl⟩
  · cases h

section Created

variable (h : Selector.EqualityTerms selector)
  (hapart : ∀ p ∈ fields.keys, ∀ q ∈ selector.keys, Path.Apart p q)
  (hcreated : updateCreates selector [("$set", .document fields)] fresh = some created)

include h hapart hcreated

-- What is set beside the terms leaves what the document has taken over, and the new identifier does
-- not stand in the way.
theorem getPath?_created_of_isTopField (hentry : entry ∈ selector) (htop : Document.isTopField entry.1 = true)
    (hreadable : Path.Readable entry.1) (hv : entry.2.demanded? = some v) :
    created.getPath? entry.1 = some v := by
  obtain ⟨changed, houtcome, rfl⟩ := updateCreates_eq_some hcreated
  have hbeside : ∀ p ∈ fields.keys, Path.Apart p entry.1 := fun p hp =>
    hapart p hp entry.1 (List.mem_map_of_mem hentry)
  have hkept := ((spares_of_set houtcome).kept entry.1 hbeside fun p hp =>
    Document.not_meetInArray_of_isTopField htop (hbeside p hp)).1
  rw [Document.getPath?_of_readable hreadable selector.upsertSeed, Path.segments_of_isTopField htop,
    Value.descend_document_singleton, Document.get?_upsertSeed h hentry htop hv] at hkept
  rw [Document.getPath?_withId, hkept]
  by_cases hid : entry.1 = "_id"
  · rw [hid, Document.getPath?_id] at hkept
    exact Or.inr (by rw [hkept]; rfl)
  · exact Or.inl hid

theorem getPath?_created_of_not (hentry : entry ∈ selector)
    (hnot : ¬ (Document.isTopField entry.1 = true ∧ Path.Readable entry.1)) :
    created.getPath? entry.1 = none := by
  by_cases hreadable : Path.Readable entry.1
  · have htop : Document.isTopField entry.1 = false := by simpa [hreadable] using hnot
    obtain ⟨changed, houtcome, rfl⟩ := updateCreates_eq_some hcreated
    obtain ⟨first, next, rest, hsegments⟩ :=
      Path.exists_segments_of_not_isTopField (h.paths entry hentry) htop
    have hmissing := Document.get?_upsertSeed_of_not_isTopField h hentry hsegments
    have hkept := ((spares_of_set houtcome).kept entry.1 (fun p hp => hapart p hp entry.1 (List.mem_map_of_mem hentry))
      fun _ _ => Document.not_meetInArray_of_get?_none hsegments hmissing).1
    have hid : entry.1 ≠ "_id" := fun hid => by simp [hid, Path.segments_id] at hsegments
    rw [Document.getPath?_withId (Or.inl hid), hkept, Document.getPath?_of_get?_none hsegments hmissing]
  · exact Document.getPath?_of_not_readable hreadable created

-- So the document that is added is selected exactly if it has taken over all terms that ask for something.
theorem holds_created_iff :
    Selector.holds created selector = .ok true ↔ ∀ entry ∈ selector, CarriedOver entry := by
  rw [h.holds_iff]
  refine forall₂_congr fun entry hentry => ?_
  obtain ⟨v, hv, hwf, hnan⟩ := h.values entry hentry
  simp only [hv, Option.some.injEq, forall_eq', CarriedOver]
  by_cases hown : Document.isTopField entry.1 = true ∧ Path.Readable entry.1
  · rw [getPath?_created_of_isTopField h hapart hcreated hentry hown.1 hown.2 hv,
      Selector.equals_self ((Value.same_self_iff hwf).mpr hnan)]
    exact iff_of_true rfl (Or.inl hown)
  · rw [getPath?_created_of_not h hapart hcreated hentry hown, or_iff_right hown]
    cases v <;> simp [Selector.equals, Value.isNull]

end Created

-- What is set beside the terms leaves a document selected or unselected as it was, unless they lead
-- into one of its arrays.
theorem holds_updated_iff (h : Selector.EqualityTerms selector)
    (hapart : ∀ p ∈ fields.keys, ∀ q ∈ selector.keys, Path.Apart p q)
    (hmeet : Selector.holds d selector = .ok true →
      ∀ p ∈ fields.keys, ∀ q ∈ selector.keys, Document.isTopField q = false → ¬ d.MeetInArray p q)
    (hupdated : updated selector [("$set", .document fields)] d = .ok e) :
    Selector.holds e selector = .ok true ↔ Selector.holds d selector = .ok true := by
  rcases updated_cases hupdated with rfl | ⟨hselected, houtcome, rfl⟩
  · exact Iff.rfl
  · refine h.holds_congr fun entry hentry => ?_
    have hkey : entry.1 ∈ selector.keys := List.mem_map_of_mem hentry
    refine ((spares_of_set houtcome).kept entry.1 (fun p hp => hapart p hp entry.1 hkey) fun p hp => ?_).1
    cases htop : Document.isTopField entry.1 with
    | true => exact Document.not_meetInArray_of_isTopField htop (hapart p hp entry.1 hkey)
    | false => exact hmeet hselected p hp entry.1 hkey htop

theorem exists_selected_iff_settles (h : Selector.EqualityTerms selector)
    (hapart : ∀ p ∈ fields.keys, ∀ q ∈ selector.keys, Path.Apart p q)
    (hmeet : ∀ d ∈ docs, Selector.holds d selector = .ok true →
      ∀ p ∈ fields.keys, ∀ q ∈ selector.keys, Document.isTopField q = false → ¬ d.MeetInArray p q)
    (houtcome : (Collection.update name selector [("$set", .document fields)] true false fresh docs).outcome =
      .ok report) :
    (∃ e ∈ (Collection.update name selector [("$set", .document fields)] true false fresh docs).documents,
        Selector.holds e selector = .ok true) ↔ Settles selector docs := by
  rcases update_of_ok houtcome with ⟨hnone, _, created, hcreated, hdocuments⟩ | ⟨hdocuments, heach, hmatched⟩
  · have hunselected := Selector.not_exists_selected_of_select_nil hnone
    rw [hdocuments, Settles, or_iff_right hunselected, ← holds_created_iff h hapart hcreated]
    constructor
    · rintro ⟨e, he, hselected⟩
      rcases List.mem_append.mp he with hold | hnew
      · exact absurd ⟨e, hold, hselected⟩ hunselected
      · exact List.mem_singleton.mp hnew ▸ hselected
    · exact fun hselected => ⟨created, by simp, hselected⟩
  · obtain ⟨d, hd, hselected⟩ := exists_selected_of_updateEach heach hmatched
    obtain ⟨e, he, hupdated⟩ := exists_of_mem_after (updateEach_documents_of_ok heach).flip hd
    refine iff_of_true ⟨e, hdocuments ▸ he, ?_⟩ (Or.inl ⟨d, hd, hselected⟩)
    exact (holds_updated_iff h hapart (hmeet d hd) hupdated).mpr hselected

-- An upsert adds nothing where something is selected.
theorem length_update_of_selected {update : Document} (hselected : ∃ d ∈ docs, Selector.holds d selector = .ok true)
    (upsert onlyFirst : Bool) :
    (Collection.update name selector update upsert onlyFirst fresh docs).documents.length = docs.length := by
  have hsome : ¬ (upsert = true ∧ Selector.select selector docs = .ok []) := fun hadds =>
    Selector.not_exists_selected_of_select_nil hadds.2 hselected
  rw [update_documents, upsertOf_eq_none hsome]
  exact (updateEach_documents name selector update onlyFirst docs).length_eq.symm

theorem update_documents_of_created {update : Document} (hnone : Selector.select selector docs = .ok [])
    (hcreated : updateCreates selector update fresh = some created) (onlyFirst : Bool) :
    (Collection.update name selector update true onlyFirst fresh docs).documents = docs ++ [created] := by
  have hadded : upsertOf selector true (updateCreates selector update fresh) docs = some created := by
    simp [upsertOf, hnone, hcreated]
  rw [update_documents, hadded]

-- Whether an upsert can make a document does not depend on the identifier.
theorem exists_updateCreates {update : Document} (h : updateCreates selector update fresh = some created)
    (other : ObjectId) : ∃ again, updateCreates selector update other = some again := by
  obtain ⟨changed, houtcome, _⟩ := updateCreates_eq_some h
  refine ⟨(update.applyUpdate selector.upsertSeed).document.withId none other, ?_⟩
  simp only [updateCreates, houtcome]

-- Where some document is selected afterwards, the upsert adds none when it is repeated; where none is,
-- it adds another one.
theorem length_update_again (h : Selector.EqualityTerms selector) {update : Document}
    (houtcome : (Collection.update name selector update true false fresh docs).outcome = .ok report)
    (hsettles : (∃ e ∈ (Collection.update name selector update true false fresh docs).documents,
      Selector.holds e selector = .ok true) ↔ Settles selector docs) (other : ObjectId) :
    let after := (Collection.update name selector update true false fresh docs).documents
    let again := (Collection.update name selector update true false other after).documents
    (Settles selector docs → again.length = after.length) ∧
      (¬ Settles selector docs →
        (∀ e ∈ after, Selector.holds e selector = .ok false) ∧ again.length = after.length + 1) := by
  intro after again
  refine ⟨fun hsettled => length_update_of_selected (hsettles.mpr hsettled) true false, fun hnot => ?_⟩
  have hunselected : ∀ e ∈ after, Selector.holds e selector = .ok false := by
    intro e he
    obtain ⟨b, hb⟩ := h.decided e
    cases b with
    | false => exact hb
    | true => exact absurd (hsettles.mp ⟨e, he, hb⟩) hnot
  refine ⟨hunselected, ?_⟩
  have hnone : Selector.select selector after = .ok [] := by
    rw [Selector.select_eq_filter hunselected, List.filter_false]
  rcases update_of_ok houtcome with ⟨_, _, created, hcreated, _⟩ | ⟨_, heach, hmatched⟩
  · obtain ⟨next, hnext⟩ := exists_updateCreates hcreated other
    simp only [again, update_documents_of_created hnone hnext, List.length_append, List.length_singleton]
  · exact absurd (Or.inl (exists_selected_of_updateEach heach hmatched)) hnot

end

end Collection

end DocStore
