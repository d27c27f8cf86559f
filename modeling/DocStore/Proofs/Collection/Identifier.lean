import DocStore.Proofs.Document.Identifier
import DocStore.Proofs.Outcome
import DocStore.Proofs.Store.Effect

namespace DocStore

namespace Document

-- Whether the identifier, if there is one, has no document with a key twice.
def IdWellFormed (d : Document) : Prop := ∀ id, d.id? = some id → id.WellFormed

theorem KeepsId.idWellFormed {d e : Document} (h : d.KeepsId e) (hd : d.IdWellFormed) :
    e.IdWellFormed := by
  intro id hid
  rcases h with he | ⟨v, hv, hev, _⟩
  · exact hd id (he.symm.trans hid)
  · cases hev.symm.trans hid
    exact hv

theorem idWellFormed_of_wellFormed {d : Document} (h : (Value.document d).WellFormed) :
    d.IdWellFormed := fun _ hid =>
  Value.wellFormedFields_iff.mp h.2 _ (OrderedMap.mem_of_get? hid)

theorem idWellFormed_insert {d : Document} {key : String} {v : Value} (hd : d.IdWellFormed)
    (hv : v.WellFormed) : IdWellFormed (OrderedMap.insert d key v) := by
  intro id hid
  simp only [id?, OrderedMap.get?_insert] at hid
  split at hid
  · cases hid
    exact hv
  · exact hd id hid

@[simp] theorem withId_id? (d : Document) (id : Option Value) (fresh : ObjectId) :
    (d.withId id fresh).id? = some ((id.or d.id?).getD (.objectId fresh)) := by
  simp [withId, id?, OrderedMap.get?]

theorem withId_identified {d : Document} {id : Option Value} {fresh : ObjectId}
    (hid : ∀ v, id = some v → v.WellFormed) (hd : d.IdWellFormed) : (d.withId id fresh).Identified := by
  refine ⟨_, withId_id? d id fresh, ?_⟩
  cases id with
  | some v => exact hid v rfl
  | none =>
      cases hown : d.id? with
      | some v => exact hd v hown
      | none => trivial

theorem upsertSeed_idWellFormed {selector : Document} (h : (Value.document selector).WellFormed) :
    selector.upsertSeed.IdWellFormed := by
  have hfields := Value.wellFormedFields_iff.mp h.2
  clear h
  have hseed : IdWellFormed [] := fun _ hid => by cases hid
  unfold upsertSeed
  revert hseed
  generalize ([] : Document) = seed
  intro hseed
  induction selector generalizing seed with
  | nil => exact hseed
  | cons entry rest ih =>
      obtain ⟨key, arg⟩ := entry
      obtain ⟨harg, hrest⟩ := List.forall_mem_cons.mp hfields
      refine ih hrest _ ?_
      dsimp only
      split
      · exact hseed
      · split
        · next fields =>
            split
            · split
              · next v hv =>
                  exact idWellFormed_insert hseed
                    (Value.wellFormedFields_iff.mp harg.2 _ (OrderedMap.mem_of_get? hv))
              · exact hseed
            · exact idWellFormed_insert hseed harg
        · exact idWellFormed_insert hseed harg

end Document

namespace Collection

-- Whether every document has an identifier.
def Identified (docs : List Document) : Prop := ∀ d ∈ docs, d.Identified

-- Whether no two documents at different positions share their identifier.
def UniqueIds (docs : List Document) : Prop :=
  docs.Pairwise fun d e => d.sharesId e = false ∧ e.sharesId d = false

-- The document that an upsert of what is not selected adds.
def upsertOf (selector : Document) (upsert : Bool) (created : Option Document) (docs : List Document) :
    Option Document :=
  match upsert, Selector.select selector docs with
  | true, .ok [] => created
  | _, _ => none

-- What an update makes of the fields that a query document demands.
def updateCreates (selector update : Document) (fresh : ObjectId) : Option Document :=
  let seeded := update.applyUpdate selector.upsertSeed
  match seeded.outcome with
  | .ok _ => some (seeded.document.withId none fresh)
  | .error _ => none

def replaceCreates (selector replacement : Document) (fresh : ObjectId) : Document :=
  replacement.withId (replacement.id?.or selector.upsertSeed.id?) fresh

section

variable {docs docs' : List Document} {d : Document}

theorem exists_of_mem_after {R : Document → Document → Prop} (h : List.Forall₂ R docs docs') {e : Document}
    (he : e ∈ docs') : ∃ d ∈ docs, R d e := by
  induction h with
  | nil => cases he
  | @cons d first rest others hr _ ih =>
      cases List.mem_cons.mp he with
      | inl hfirst => exact ⟨d, List.mem_cons_self, hfirst ▸ hr⟩
      | inr hrest =>
          obtain ⟨old, hold, hre⟩ := ih hrest
          exact ⟨old, List.mem_cons_of_mem d hold, hre⟩

theorem keepsId_refl (docs : List Document) : List.Forall₂ Document.KeepsId docs docs :=
  List.forall₂_same.mpr fun d _ => Document.KeepsId.refl d

theorem identified_of_keepsId (h : List.Forall₂ Document.KeepsId docs docs')
    (hdocs : Identified docs) : Identified docs' := by
  intro e he
  obtain ⟨d, hd, hkeep⟩ := exists_of_mem_after h he
  exact hkeep.identified (hdocs d hd)

theorem UniqueIds.of_keepsId (hu : UniqueIds docs) (h : List.Forall₂ Document.KeepsId docs docs')
    (hdocs : Identified docs) : UniqueIds docs' := by
  induction h with
  | nil => exact hu
  | @cons d e rest others hkeep hall ih =>
      obtain ⟨hd, hrest⟩ := List.forall_mem_cons.mp hdocs
      obtain ⟨hhead, htail⟩ := List.pairwise_cons.mp hu
      refine List.pairwise_cons.mpr ⟨fun f' hf' => ?_, ih htail hrest⟩
      obtain ⟨f, hf, hkeep'⟩ := exists_of_mem_after hall hf'
      obtain ⟨hdf, hfd⟩ := hhead f hf
      constructor
      · rw [Bool.eq_false_iff] at hdf ⊢
        exact fun h => hdf (hkeep.sharesId hkeep' hd (hrest f hf) h)
      · rw [Bool.eq_false_iff] at hfd ⊢
        exact fun h => hfd (hkeep'.sharesId hkeep (hrest f hf) hd h)

theorem uniqueIds_concat_iff (hdocs : Identified docs) (hd : d.Identified) :
    UniqueIds (docs ++ [d]) ↔ UniqueIds docs ∧ ∀ e ∈ docs, e.sharesId d = false := by
  unfold UniqueIds
  rw [List.pairwise_append]
  constructor
  · rintro ⟨hu, _, hcross⟩
    exact ⟨hu, fun e he => (hcross e he d List.mem_cons_self).1⟩
  · rintro ⟨hu, hnew⟩
    refine ⟨hu, List.pairwise_singleton _ _, fun e he f hf => ?_⟩
    rw [List.mem_singleton.mp hf]
    exact ⟨hnew e he, by rw [← Document.sharesId_comm (hdocs e he) hd]; exact hnew e he⟩

end

section

variable {name : String} {selector update replacement : Document} {upsert onlyFirst : Bool}
  {fresh : ObjectId} {docs : List Document} {created : Document}

theorem updateEach_keepsId (hspare : update.sparesId = true) (hwf : (Value.document update).WellFormed)
    (docs : List Document) :
    List.Forall₂ Document.KeepsId docs (updateEach name selector update onlyFirst docs).documents := by
  induction docs with
  | nil => exact .nil
  | cons d rest ih =>
      unfold updateEach
      split
      · exact keepsId_refl _
      · exact .cons (Document.KeepsId.refl d) ih
      · dsimp only
        split
        · exact keepsId_refl _
        · next changed _ =>
            have hnext : d.KeepsId (if changed = true then (update.applyUpdate d).document else d) := by
              split
              · exact Document.applyUpdate_keepsId hspare hwf
              · exact Document.KeepsId.refl d
            refine .cons hnext ?_
            split
            · exact keepsId_refl rest
            · exact ih

theorem replaceFirst_keepsId (hdocs : Identified docs) :
    List.Forall₂ Document.KeepsId docs (replaceFirst name selector replacement fresh docs).documents := by
  induction docs with
  | nil => exact .nil
  | cons d rest ih =>
      obtain ⟨⟨id, hid, _⟩, hrest⟩ := List.forall_mem_cons.mp hdocs
      unfold replaceFirst
      split
      · exact keepsId_refl _
      · exact .cons (Document.KeepsId.refl d) (ih hrest)
      · split
        · exact keepsId_refl _
        · refine .cons (Or.inl ?_) (keepsId_refl rest)
          simp [hid]

-- Where nothing is selected, an update and a replacement leave all documents.
theorem updateEach_of_unselected (h : Selector.select selector docs = .ok []) :
    updateEach name selector update onlyFirst docs = ⟨docs, [], .ok {}⟩ := by
  induction docs with
  | nil => rfl
  | cons d rest ih =>
      unfold Selector.select at h
      unfold updateEach
      split at h
      · obtain ⟨found, _, hcons⟩ := Except.map_eq_ok_iff.mp h
        cases hcons
      · next hd => simp [hd, ih h, keep]
      · cases h

theorem replaceFirst_of_unselected (h : Selector.select selector docs = .ok []) :
    replaceFirst name selector replacement fresh docs = ⟨docs, [], .ok {}⟩ := by
  induction docs with
  | nil => rfl
  | cons d rest ih =>
      unfold Selector.select at h
      unfold replaceFirst
      split at h
      · obtain ⟨found, _, hcons⟩ := Except.map_eq_ok_iff.mp h
        cases hcons
      · next hd => simp [hd, ih h, keep]
      · cases h

theorem unselected_of_updateEach {report : UpdateReport}
    (h : (updateEach name selector update onlyFirst docs).outcome = .ok report) (hm : report.matched = 0) :
    Selector.select selector docs = .ok [] := by
  induction docs with
  | nil => rfl
  | cons d rest ih =>
      unfold updateEach at h
      unfold Selector.select
      split at h
      · cases h
      · next hd => simp [hd, ih h]
      · dsimp only at h
        split at h
        · cases h
        · obtain ⟨inner, _, rfl⟩ := Except.map_eq_ok_iff.mp h
          simp at hm

theorem unselected_of_replaceFirst {report : UpdateReport}
    (h : (replaceFirst name selector replacement fresh docs).outcome = .ok report)
    (hm : report.matched = 0) : Selector.select selector docs = .ok [] := by
  induction docs with
  | nil => rfl
  | cons d rest ih =>
      unfold replaceFirst at h
      unfold Selector.select
      split at h
      · cases h
      · next hd => simp [hd, ih h]
      · split at h
        · cases h
        · cases h
          simp at hm

theorem upsertOf_eq_none {created : Option Document}
    (h : ¬(upsert = true ∧ Selector.select selector docs = .ok [])) :
    upsertOf selector upsert created docs = none := by
  unfold upsertOf
  split
  · next hselect => exact absurd ⟨rfl, hselect⟩ h
  · rfl

theorem update_documents :
    (Collection.update name selector update upsert onlyFirst fresh docs).documents =
      match upsertOf selector upsert (updateCreates selector update fresh) docs with
      | some created => docs ++ [created]
      | none => (updateEach name selector update onlyFirst docs).documents := by
  by_cases h : upsert = true ∧ Selector.select selector docs = .ok []
  · simp only [upsertOf, h.1, h.2, Collection.update, updateEach_of_unselected h.2, updateCreates]
    cases (update.applyUpdate selector.upsertSeed).outcome <;> simp
  · simp only [upsertOf_eq_none h, Collection.update]
    split
    · rfl
    · next report hreport =>
        rw [if_neg fun hboth => h ⟨hboth.2, unselected_of_updateEach hreport hboth.1⟩]

theorem replaceOne_documents :
    (replaceOne name selector replacement upsert fresh docs).documents =
      match upsertOf selector upsert (some (replaceCreates selector replacement fresh)) docs with
      | some created => docs ++ [created]
      | none => (replaceFirst name selector replacement fresh docs).documents := by
  by_cases h : upsert = true ∧ Selector.select selector docs = .ok []
  · simp [upsertOf, h.1, h.2, replaceOne, replaceFirst_of_unselected h.2, replaceCreates]
  · simp only [upsertOf_eq_none h, replaceOne]
    split
    · rfl
    · next report hreport =>
        rw [if_neg fun hboth => h ⟨hboth.2, unselected_of_replaceFirst hreport hboth.1⟩]

theorem updateCreates_identified (hspare : update.sparesId = true)
    (hselector : (Value.document selector).WellFormed) (hupdate : (Value.document update).WellFormed)
    (h : updateCreates selector update fresh = some created) : created.Identified := by
  simp only [updateCreates] at h
  split at h
  · cases h
    refine Document.withId_identified (fun _ hv => by cases hv) ?_
    exact (Document.applyUpdate_keepsId hspare hupdate).idWellFormed
      (Document.upsertSeed_idWellFormed hselector)
  · cases h

theorem replaceCreates_identified (hselector : (Value.document selector).WellFormed)
    (hreplacement : (Value.document replacement).WellFormed) :
    (replaceCreates selector replacement fresh).Identified := by
  have hown := Document.idWellFormed_of_wellFormed hreplacement
  refine Document.withId_identified (fun v hv => ?_) hown
  cases hid : replacement.id? with
  | some id =>
      rw [hid] at hv
      cases hv
      exact hown v hid
  | none =>
      rw [hid] at hv
      exact Document.upsertSeed_idWellFormed hselector v hv

theorem upsertOf_created {added : Option Document} (h : upsertOf selector upsert added docs = some created) :
    added = some created := by
  unfold upsertOf at h
  split at h
  · exact h
  · cases h

-- An update either adds the document of an upsert or keeps every identifier.
theorem update_cases (hspare : update.sparesId = true) (hselector : (Value.document selector).WellFormed)
    (hupdate : (Value.document update).WellFormed) :
    (∃ created, upsertOf selector upsert (updateCreates selector update fresh) docs = some created ∧
        created.Identified ∧
        (Collection.update name selector update upsert onlyFirst fresh docs).documents =
          docs ++ [created]) ∨
      upsertOf selector upsert (updateCreates selector update fresh) docs = none ∧
        List.Forall₂ Document.KeepsId docs
          (Collection.update name selector update upsert onlyFirst fresh docs).documents := by
  rw [update_documents]
  cases hupsert : upsertOf selector upsert (updateCreates selector update fresh) docs with
  | some created =>
      have hcreated := updateCreates_identified hspare hselector hupdate (upsertOf_created hupsert)
      exact Or.inl ⟨created, rfl, hcreated, rfl⟩
  | none => exact Or.inr ⟨rfl, updateEach_keepsId hspare hupdate docs⟩

theorem replaceOne_cases (hselector : (Value.document selector).WellFormed)
    (hreplacement : (Value.document replacement).WellFormed) (hdocs : Identified docs) :
    (∃ created, upsertOf selector upsert (some (replaceCreates selector replacement fresh)) docs =
        some created ∧ created.Identified ∧
        (replaceOne name selector replacement upsert fresh docs).documents = docs ++ [created]) ∨
      upsertOf selector upsert (some (replaceCreates selector replacement fresh)) docs = none ∧
        List.Forall₂ Document.KeepsId docs
          (replaceOne name selector replacement upsert fresh docs).documents := by
  rw [replaceOne_documents]
  cases hupsert : upsertOf selector upsert (some (replaceCreates selector replacement fresh)) docs with
  | some created =>
      have hcreated : (replaceCreates selector replacement fresh).Identified :=
        replaceCreates_identified hselector hreplacement
      rw [Option.some.inj (upsertOf_created hupsert)] at hcreated
      exact Or.inl ⟨created, rfl, hcreated, rfl⟩
  | none => exact Or.inr ⟨rfl, replaceFirst_keepsId hdocs⟩

theorem insertOne_documents (d : Document) :
    (insertOne name d fresh docs).documents = docs ∨
      ((insertOne name d fresh docs).documents = docs ++ [d.withId none fresh] ∧
        ∀ e ∈ docs, e.sharesId (d.withId none fresh) = false) := by
  unfold insertOne
  dsimp only
  split
  · exact Or.inl rfl
  · next hnew =>
      refine Or.inr ⟨rfl, fun e he => ?_⟩
      have hunused := List.any_eq_false.mp (Bool.eq_false_iff.mpr hnew) e he
      cases hid : e.id? with
      | none => simp [Document.sharesId, hid]
      | some id => simpa [Document.sharesId, holdsId, hid] using hunused

theorem marks_length {hits : List Bool} (h : marks selector docs = .ok hits) :
    docs.length ≤ hits.length := by
  induction docs generalizing hits with
  | nil => simp
  | cons d rest ih =>
      unfold marks at h
      split at h
      · obtain ⟨others, hrest, rfl⟩ := Except.map_eq_ok_iff.mp h
        simpa using ih hrest
      · cases h

theorem deleteMany_sublist : (deleteMany name selector docs).documents.Sublist docs := by
  unfold deleteMany
  split
  · exact List.Sublist.refl docs
  · next hits hhits =>
      have hkept := (List.filter_sublist (l := docs.zip hits) (p := (!·.2))).map (·.1)
      rwa [List.map_fst_zip (marks_length hhits)] at hkept

end

end Collection

end DocStore
