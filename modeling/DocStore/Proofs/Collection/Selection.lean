import DocStore.Proofs.Selector.Selection
import DocStore.Store.Collection

namespace DocStore.Collection

variable {selector : Document} {docs : List Document}

-- Without options all that is selected is found.
theorem find_default (selector : Document) (docs : List Document) :
    find selector {} docs = Selector.select selector docs := by
  unfold find
  cases Selector.select selector docs <;> rfl

theorem select_eq_map_marks (selector : Document) (docs : List Document) :
    Selector.select selector docs =
      (marks selector docs).map fun hits => ((docs.zip hits).filter (·.2)).map (·.1) := by
  induction docs with
  | nil => rfl
  | cons d rest ih =>
      rw [Selector.select, marks]
      cases Selector.holds d selector with
      | error e => rfl
      | ok hit =>
          simp only [ih]
          cases marks selector rest <;> cases hit <;> rfl

-- As many are deleted as are selected.
theorem deleteMany_outcome (name : String) (selector : Document) (docs : List Document) :
    (deleteMany name selector docs).outcome = count selector docs := by
  rw [deleteMany, count, select_eq_map_marks]
  cases marks selector docs <;> rfl

theorem marks_of_decided (h : ∀ d ∈ docs, ∃ b, Selector.holds d selector = .ok b) :
    marks selector docs = .ok (docs.map (Selector.passes selector)) := by
  induction docs with
  | nil => rfl
  | cons d rest ih =>
      obtain ⟨hd, hrest⟩ := List.forall_mem_cons.mp h
      rw [marks, Selector.holds_passes hd, ih hrest]
      rfl

theorem deleteMany_documents (name : String) (h : ∀ d ∈ docs, ∃ b, Selector.holds d selector = .ok b) :
    (deleteMany name selector docs).documents = docs.filter (!Selector.passes selector ·) := by
  rw [deleteMany, marks_of_decided h]
  induction docs with
  | nil => rfl
  | cons d rest ih =>
      have hrest := ih (List.forall_mem_cons.mp h).2
      simp only [List.map_cons, List.zip_cons_cons, List.filter_cons] at hrest ⊢
      cases Selector.passes selector d with
      | true => simpa using hrest
      | false => simpa using hrest

-- An update that succeeds has matched as many documents as are selected. It
-- changes a document only after all in front of it have been decided, and never
-- looks at one again.
theorem updateEach_matched {name : String} {update : Document} {report : UpdateReport}
    (h : (updateEach name selector update false docs).outcome = .ok report) :
    count selector docs = .ok report.matched := by
  induction docs generalizing report with
  | nil =>
      cases h
      rfl
  | cons d rest ih =>
      unfold updateEach at h
      rw [count, Selector.select]
      cases hd : Selector.holds d selector with
      | error e => simp [hd] at h
      | ok hit =>
          simp only [hd] at h ⊢
          cases hit with
          | false => exact ih h
          | true =>
              dsimp only at h
              split at h
              · cases h
              · obtain ⟨inner, hinner, rfl⟩ := Except.map_eq_ok_iff.mp h
                obtain ⟨found, hfound, hlength⟩ := Except.map_eq_ok_iff.mp (ih hinner)
                simp only [hfound, Except.map, List.length_cons, hlength]

theorem update_matched {name : String} {update : Document} {fresh : ObjectId} {report : UpdateReport}
    (h : (Collection.update name selector update false false fresh docs).outcome = .ok report) :
    count selector docs = .ok report.matched := by
  unfold Collection.update at h
  dsimp only at h
  split at h
  · exact updateEach_matched h
  · next inner _ =>
      rw [if_neg (by simp)] at h
      exact updateEach_matched h

end DocStore.Collection
