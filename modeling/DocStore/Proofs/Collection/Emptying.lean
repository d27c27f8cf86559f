import DocStore.Proofs.Collection.Selection
import DocStore.Proofs.Collection.Update
import DocStore.Proofs.Store.Effect

namespace DocStore

namespace Collection

section

variable {name : String} {selector update replacement : Document} {upsert onlyFirst : Bool}
  {fresh : ObjectId} {docs : List Document}

theorem upsertOf_of_nil (created : Option Document) :
    upsertOf selector upsert created [] = if upsert then created else none := by
  cases upsert <;> rfl

theorem insertOne_documents_ne_nil (d : Document) : (insertOne name d fresh docs).documents ≠ [] := by
  unfold insertOne
  dsimp only
  split
  · next hused =>
      rintro rfl
      cases hused
  · simp

theorem updateEach_documents_eq_nil_iff :
    (updateEach name selector update onlyFirst docs).documents = [] ↔ docs = [] := by
  have hlength := (updateEach_documents name selector update onlyFirst docs).length_eq
  rw [← List.length_eq_zero_iff, ← hlength, List.length_eq_zero_iff]

theorem replaceFirst_documents_eq_nil_iff :
    (replaceFirst name selector replacement fresh docs).documents = [] ↔ docs = [] := by
  cases docs with
  | nil => simp [replaceFirst]
  | cons d rest =>
      unfold replaceFirst
      split
      · simp
      · simp [keep]
      · split <;> simp

theorem update_documents_eq_nil_iff :
    (Collection.update name selector update upsert onlyFirst fresh docs).documents = [] ↔
      docs = [] ∧ (upsert = true → updateCreates selector update fresh = none) := by
  rw [update_documents]
  cases hupsert : upsertOf selector upsert (updateCreates selector update fresh) docs with
  | some created =>
      refine iff_of_false (by simp) ?_
      rintro ⟨rfl, hnone⟩
      rw [upsertOf_of_nil] at hupsert
      cases upsert with
      | false => cases hupsert
      | true => simp [hnone rfl] at hupsert
  | none =>
      dsimp only
      rw [updateEach_documents_eq_nil_iff]
      refine ⟨?_, And.left⟩
      rintro rfl
      refine ⟨rfl, fun hon => ?_⟩
      rwa [upsertOf_of_nil, if_pos hon] at hupsert

theorem replaceOne_documents_eq_nil_iff :
    (replaceOne name selector replacement upsert fresh docs).documents = [] ↔ docs = [] ∧ upsert = false := by
  rw [replaceOne_documents]
  cases hupsert : upsertOf selector upsert (some (replaceCreates selector replacement fresh)) docs with
  | some created =>
      refine iff_of_false (by simp) ?_
      rintro ⟨rfl, rfl⟩
      cases hupsert
  | none =>
      dsimp only
      rw [replaceFirst_documents_eq_nil_iff]
      refine ⟨?_, And.left⟩
      rintro rfl
      refine ⟨rfl, ?_⟩
      cases upsert with
      | false => rfl
      | true => cases hupsert

theorem deleteMany_documents_eq_nil_iff :
    (deleteMany name selector docs).documents = [] ↔ ∀ d ∈ docs, Selector.holds d selector = .ok true := by
  by_cases hdecided : ∀ d ∈ docs, ∃ b, Selector.holds d selector = .ok b
  · rw [deleteMany_documents name hdecided, List.filter_eq_nil_iff]
    refine forall₂_congr fun d hd => ?_
    rw [Selector.holds_passes (hdecided d hd)]
    simp
  · -- a deletion that cannot be decided leaves all documents, and there are some
    have hkept : (deleteMany name selector docs).documents = docs := by
      cases houtcome : (deleteMany name selector docs).outcome with
      | error e => exact deleteMany_error houtcome
      | ok n =>
          rw [deleteMany_outcome, count] at houtcome
          obtain ⟨found, hfound, _⟩ := Except.map_eq_ok_iff.mp houtcome
          exact absurd (Selector.decided_of_select hfound) hdecided
    rw [hkept]
    refine iff_of_false ?_ fun h => hdecided fun d hd => ⟨true, h d hd⟩
    rintro rfl
    exact hdecided fun _ hd => absurd hd List.not_mem_nil

end

end Collection

namespace Call

-- Whether a call that writes to these documents leaves none.
def Empties (c : Call) (fresh : ObjectId) (docs : List Document) : Prop :=
  match c with
  | updateMany _ filter update upsert =>
    docs = [] ∧ (upsert = true → Collection.updateCreates filter update fresh = none)
  | updateOne _ filter update upsert =>
    docs = [] ∧ (upsert = true → Collection.updateCreates filter update fresh = none)
  | replaceOne _ _ _ upsert => docs = [] ∧ upsert = false
  | deleteMany _ filter => ∀ d ∈ docs, Selector.holds d filter = .ok true
  | _ => False

theorem write_documents_eq_nil_iff {c : Call} {name : String} {f : ObjectId → List Document → Write c.Answer}
    (h : c.write? = some (name, f)) (fresh : ObjectId) (docs : List Document) :
    (f fresh docs).documents = [] ↔ c.Empties fresh docs := by
  cases c with
  | insertOne name d =>
      cases h
      exact iff_of_false (Collection.insertOne_documents_ne_nil d) id
  | updateMany name filter update upsert =>
      cases h
      exact Collection.update_documents_eq_nil_iff
  | updateOne name filter update upsert =>
      cases h
      exact Collection.update_documents_eq_nil_iff
  | replaceOne name filter replacement upsert =>
      cases h
      exact Collection.replaceOne_documents_eq_nil_iff
  | deleteMany name filter =>
      cases h
      exact Collection.deleteMany_documents_eq_nil_iff
  | _ => cases h

end Call

end DocStore
