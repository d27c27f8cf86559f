import DocStore.Proofs.Collection.Update
import DocStore.Proofs.Document.Lead
import DocStore.Proofs.Store.Identifier
import DocStore.Proofs.Store.Session

namespace DocStore

namespace Collection

-- Whether every document begins with its identifier.
def LedById (docs : List Document) : Prop := ∀ d ∈ docs, d.LedById

-- How a document of a collection has come about after a write.
inductive WrittenFrom (docs : List Document) : Document → Prop where
  | kept {d : Document} (hd : d ∈ docs) : WrittenFrom docs d
  | updated {d : Document} (hd : d ∈ docs) (update : Document) :
      WrittenFrom docs (update.applyUpdate d).document
  | identified (d : Document) (id : Option Value) (fresh : ObjectId) : WrittenFrom docs (d.withId id fresh)

variable {name : String} {selector update replacement : Document} {upsert onlyFirst : Bool}
  {fresh : ObjectId} {docs : List Document} {e created : Document}

theorem writtenFrom_updateEach (h : e ∈ (updateEach name selector update onlyFirst docs).documents) :
    WrittenFrom docs e := by
  have hpairs := updateEach_documents name selector update onlyFirst docs
  obtain ⟨d, hd, rfl | hupdated⟩ := exists_of_mem_after hpairs h
  · exact .kept hd
  · rcases updated_cases hupdated with rfl | ⟨_, _, rfl⟩
    · exact .kept hd
    · exact .updated hd update

theorem writtenFrom_replaceFirst (h : e ∈ (replaceFirst name selector replacement fresh docs).documents) :
    WrittenFrom docs e := by
  induction docs with
  | nil => exact .kept h
  | cons d rest ih =>
      have hlater (hrest : WrittenFrom rest e) : WrittenFrom (d :: rest) e := by
        cases hrest with
        | kept hd => exact .kept (List.mem_cons_of_mem d hd)
        | updated hd update => exact .updated (List.mem_cons_of_mem d hd) update
        | identified own id fresh => exact .identified own id fresh
      unfold replaceFirst at h
      split at h
      · exact .kept h
      · rcases List.mem_cons.mp h with rfl | hrest
        · exact .kept List.mem_cons_self
        · exact hlater (ih hrest)
      · split at h
        · exact .kept h
        · rcases List.mem_cons.mp h with rfl | hrest
          · exact .identified replacement d.id? fresh
          · exact .kept (List.mem_cons_of_mem d hrest)

theorem writtenFrom_append (hcreated : WrittenFrom docs created) (h : e ∈ docs ++ [created]) :
    WrittenFrom docs e := by
  rcases List.mem_append.mp h with hold | hnew
  · exact .kept hold
  · exact List.mem_singleton.mp hnew ▸ hcreated

theorem writtenFrom_insertOne {d : Document} (h : e ∈ (insertOne name d fresh docs).documents) :
    WrittenFrom docs e := by
  have hcases : (insertOne name d fresh docs).documents = docs ∨ _ := insertOne_documents d
  rcases hcases with hsame | ⟨hadded, _⟩
  · exact .kept (hsame ▸ h)
  · exact writtenFrom_append (.identified d none fresh) (hadded ▸ h)

theorem writtenFrom_update
    (h : e ∈ (Collection.update name selector update upsert onlyFirst fresh docs).documents) :
    WrittenFrom docs e := by
  rw [update_documents] at h
  split at h
  · next created hupsert =>
      have hcreates := upsertOf_created hupsert
      unfold updateCreates at hcreates
      dsimp only at hcreates
      split at hcreates
      · cases hcreates
        exact writtenFrom_append (.identified _ none fresh) h
      · cases hcreates
  · exact writtenFrom_updateEach h

theorem writtenFrom_replaceOne
    (h : e ∈ (replaceOne name selector replacement upsert fresh docs).documents) : WrittenFrom docs e := by
  rw [replaceOne_documents] at h
  split at h
  · next created hupsert =>
      cases upsertOf_created hupsert
      exact writtenFrom_append (.identified replacement _ fresh) h
  · exact writtenFrom_replaceFirst h

theorem WrittenFrom.ledById (h : WrittenFrom docs e) (hdocs : LedById docs) : e.LedById := by
  cases h with
  | kept hd => exact hdocs e hd
  | updated hd update => exact (hdocs _ hd).applyUpdate update
  | identified d id fresh => exact Document.withId_ledById d id fresh

end Collection

theorem Call.writtenFrom {c : Call} {name : String} {f : ObjectId → List Document → Write c.Answer}
    (h : c.write? = some (name, f)) (fresh : ObjectId) (docs : List Document) :
    ∀ e ∈ (f fresh docs).documents, Collection.WrittenFrom docs e := by
  intro e he
  cases c with
  | insertOne name d =>
      cases h
      exact Collection.writtenFrom_insertOne he
  | updateMany name filter update upsert =>
      cases h
      exact Collection.writtenFrom_update he
  | updateOne name filter update upsert =>
      cases h
      exact Collection.writtenFrom_update he
  | replaceOne name filter replacement upsert =>
      cases h
      exact Collection.writtenFrom_replaceOne he
  | deleteMany name filter =>
      cases h
      exact .kept (Collection.deleteMany_sublist.subset he)
  | _ => cases h

namespace Store

-- Whether all documents, committed or in a session, begin with their identifier.
def LedById (s : Store) : Prop := s.All fun data => ∀ entry ∈ data, Collection.LedById entry.2

variable {s : Store}

theorem LedById.perform (h : s.LedById) (session : Option SessionId) (c : Call) :
    (s.perform session c).2.LedById := by
  have hnil : Collection.LedById [] := fun _ hd => absurd hd List.not_mem_nil
  refine All.perform_documents hnil h (fun name f hw docs hdocs e he => ?_) session
  exact (Call.writtenFrom hw s.fresh docs e he).ledById hdocs

theorem LedById.run (h : s.LedById) (steps : List Step) : (s.run steps).LedById := by
  induction steps generalizing s with
  | nil => exact h
  | cons step rest ih =>
      have hfacing : (s.facing step).LedById := h
      exact ih (hfacing.perform step.session step.call)

theorem ledById_empty : empty.LedById := ⟨fun _ he => (by cases he), fun _ he => (by cases he)⟩

-- Whatever is called, with whatever documents, by whomever and with whatever failures, every document
-- of every collection, committed or in a session, has its identifier as its first field.
theorem stored_documents_led_by_id (steps : List Step) :
    (empty.run steps).All fun data => ∀ entry ∈ data, ∀ d ∈ entry.2, ∃ id rest, d = ("_id", id) :: rest :=
  ledById_empty.run steps

end Store

end DocStore
