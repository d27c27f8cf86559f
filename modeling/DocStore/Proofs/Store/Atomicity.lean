import DocStore.Proofs.Outcome
import DocStore.Proofs.Store.View

namespace DocStore

-- Whether a call writes documents.
def Call.isWrite : Call → Bool
  | .insertOne .. => true
  | .updateMany .. => true
  | .updateOne .. => true
  | .replaceOne .. => true
  | .deleteMany .. => true
  | _ => false

namespace Collection

-- What an update makes of one document.
def updated (selector update d : Document) : Except StoreError Document :=
  match Selector.holds d selector with
  | .error e => .error e
  | .ok false => .ok d
  | .ok true =>
    let result := update.applyUpdate d
    match result.outcome with
    | .error e => .error e
    | .ok changed => .ok (if changed then result.document else d)

-- The documents in front of the first one at which an update fails.
def beforeFailure (selector update : Document) (docs : List Document) : List Document :=
  docs.takeWhile fun d => (updated selector update d).isOk

theorem beforeFailure_of_ok {selector update d next : Document} (rest : List Document)
    (h : updated selector update d = .ok next) :
    beforeFailure selector update (d :: rest) = d :: beforeFailure selector update rest := by
  simp [beforeFailure, h, Except.isOk, Except.toBool]

theorem beforeFailure_of_error {selector update d : Document} {e : StoreError} (rest : List Document)
    (h : updated selector update d = .error e) : beforeFailure selector update (d :: rest) = [] := by
  simp [beforeFailure, h, Except.isOk, Except.toBool]

theorem insertOne_error {name : String} {d : Document} {fresh : ObjectId} {docs : List Document}
    {e : StoreError} (h : (insertOne name d fresh docs).outcome = .error e) :
    (insertOne name d fresh docs).documents = docs := by
  unfold insertOne at h ⊢
  dsimp only at h ⊢
  split at h <;> simp_all

theorem deleteMany_error {name : String} {selector : Document} {docs : List Document} {e : StoreError}
    (h : (deleteMany name selector docs).outcome = .error e) :
    (deleteMany name selector docs).documents = docs := by
  unfold deleteMany at h ⊢
  split <;> simp_all

theorem replaceFirst_error {name : String} {selector replacement : Document} {fresh : ObjectId}
    {docs : List Document} {e : StoreError}
    (h : (replaceFirst name selector replacement fresh docs).outcome = .error e) :
    (replaceFirst name selector replacement fresh docs).documents = docs := by
  induction docs with
  | nil => rfl
  | cons d rest ih =>
      unfold replaceFirst at h ⊢
      cases hd : Selector.holds d selector with
      | error e' => simp
      | ok hit =>
          cases hit with
          | false =>
              simp only [hd, keep] at h ⊢
              rw [ih h]
          | true =>
              simp only [hd] at h ⊢
              split at h <;> simp_all

theorem replaceOne_error {name : String} {selector replacement : Document} {upsert : Bool}
    {fresh : ObjectId} {docs : List Document} {e : StoreError}
    (h : (replaceOne name selector replacement upsert fresh docs).outcome = .error e) :
    (replaceOne name selector replacement upsert fresh docs).documents = docs := by
  unfold replaceOne at h ⊢
  dsimp only at h ⊢
  split at h
  · next he => exact replaceFirst_error he
  · next report hr =>
      split at h
      · simp at h
      · rw [hr] at h
        cases h

-- An update of the first document stops where it writes, so a failure comes
-- before any change.
theorem updateEach_first_error {name : String} {selector update : Document} {docs : List Document}
    {e : StoreError} (h : (updateEach name selector update true docs).outcome = .error e) :
    (updateEach name selector update true docs).documents = docs := by
  induction docs with
  | nil => rfl
  | cons d rest ih =>
      unfold updateEach at h ⊢
      cases hd : Selector.holds d selector with
      | error e' => simp
      | ok hit =>
          cases hit with
          | false =>
              simp only [hd, keep] at h ⊢
              rw [ih h]
          | true =>
              simp only [hd] at h ⊢
              split at h
              · simp
              · simp at h

theorem updateEach_unmatched {name : String} {selector update : Document} {onlyFirst : Bool}
    {docs : List Document} {report : UpdateReport}
    (h : (updateEach name selector update onlyFirst docs).outcome = .ok report) (hm : report.matched = 0) :
    (updateEach name selector update onlyFirst docs).documents = docs := by
  induction docs with
  | nil => rfl
  | cons d rest ih =>
      unfold updateEach at h ⊢
      cases hd : Selector.holds d selector with
      | error e' => simp
      | ok hit =>
          cases hit with
          | false =>
              simp only [hd, keep] at h ⊢
              rw [ih h]
          | true =>
              simp only [hd] at h
              split at h
              · cases h
              · next changed _ =>
                  obtain ⟨inner, _, rfl⟩ := Except.map_eq_ok_iff.mp h
                  simp at hm

theorem update_first_error {name : String} {selector update : Document} {upsert : Bool} {fresh : ObjectId}
    {docs : List Document} {e : StoreError}
    (h : (Collection.update name selector update upsert true fresh docs).outcome = .error e) :
    (Collection.update name selector update upsert true fresh docs).documents = docs := by
  unfold Collection.update at h ⊢
  dsimp only at h ⊢
  split at h
  · next he => exact updateEach_first_error he
  · next report hr =>
      split at h
      · next hm =>
          simp only [hm, and_self, if_true]
          split at h
          · exact updateEach_unmatched hr hm.1
          · cases h
      · rw [hr] at h
        cases h

-- Up to a failure each document is what the update makes of it, so the whole
-- is as it was only if every single one is.
theorem updateEach_documents_eq_iff (name : String) (selector update : Document) (docs : List Document) :
    (updateEach name selector update false docs).documents = docs ↔
      ∀ d ∈ beforeFailure selector update docs, updated selector update d = .ok d := by
  induction docs with
  | nil => simp [updateEach, beforeFailure]
  | cons d rest ih =>
      unfold updateEach
      cases hd : Selector.holds d selector with
      | error e =>
          have hu : updated selector update d = .error e := by simp [updated, hd]
          simp [beforeFailure_of_error rest hu]
      | ok hit =>
          cases hit with
          | false =>
              have hu : updated selector update d = .ok d := by simp [updated, hd]
              simp [beforeFailure_of_ok rest hu, hu, keep, ih]
          | true =>
              dsimp only
              cases ho : (update.applyUpdate d).outcome with
              | error e =>
                  have hu : updated selector update d = .error e := by simp [updated, hd, ho]
                  simp [beforeFailure_of_error rest hu]
              | ok changed =>
                  have hu : updated selector update d =
                      .ok (if changed then (update.applyUpdate d).document else d) := by
                    simp [updated, hd, ho]
                  simp [beforeFailure_of_ok rest hu, hu, ih]

-- What an upsert adds comes after everything that can fail.
theorem update_each_error {name : String} {selector update : Document} {upsert : Bool} {fresh : ObjectId}
    {docs : List Document} {e : StoreError}
    (h : (Collection.update name selector update upsert false fresh docs).outcome = .error e) :
    (Collection.update name selector update upsert false fresh docs).documents =
      (updateEach name selector update false docs).documents := by
  unfold Collection.update at h ⊢
  dsimp only at h ⊢
  split at h
  · rfl
  · next report hr =>
      split at h
      · next hm =>
          simp only [hm, and_self, if_true]
          split at h
          · rfl
          · cases h
      · next hm => simp only [hm, if_false]

end Collection

namespace Store

-- The same documents in the same order, committed and in every session. A
-- collection that is not there holds none.
def SameDocuments (s t : Store) : Prop :=
  ∀ session name, (t.view session).map (·.documents name) = (s.view session).map (·.documents name)

-- The same events, those that sessions hold back and those handed out.
def SameEvents (s t : Store) : Prop :=
  (∀ id, (t.session? id).map (·.events) = (s.session? id).map (·.events)) ∧
    t.subscriptions = s.subscriptions

-- Whether a call is an update of many documents that is let in and that changes
-- some document in front of the one at which it fails.
def ChangesBeforeFailing (s : Store) (session : Option SessionId) : Call → Prop
  | .updateMany name filter update upsert =>
    s.failing ≠ some (Call.updateMany name filter update upsert).name ∧
      ∃ data, s.view session = .ok data ∧
        ∃ d ∈ Collection.beforeFailure filter update (data.documents name),
          Collection.updated filter update d ≠ .ok d
  | _ => False

section

variable {α : Type} {s : Store} {session : Option SessionId} {name : String}
  {f : List Document → Write α} {e : StoreError}

theorem write_error_sameEvents (he : (s.write session name f).1 = .error e) :
    s.SameEvents (s.write session name f).2 := by
  cases session with
  | none =>
      unfold write at he ⊢
      dsimp only at he ⊢
      split at he
      · cases he
      · exact ⟨fun _ => rfl, rfl⟩
  | some id =>
      cases hs : s.session? id with
      | none =>
          have hv : s.view (some id) = .error (.unknownSession id) := by simp only [view, hs]
          rw [write_of_view_error hv]
          exact ⟨fun _ => rfl, rfl⟩
      | some own =>
          unfold write at he ⊢
          simp only [hs] at he ⊢
          split at he
          · cases he
          · refine ⟨fun other => ?_, rfl⟩
            rw [session?_setSession]
            split
            · next ho => simp [ho, hs]
            · rfl

theorem write_sameDocuments_iff {data : Collections} (hv : s.view session = .ok data) :
    s.SameDocuments (s.write session name f).2 ↔
      (f (data.documents name)).documents = data.documents name := by
  constructor
  · intro h
    have hd := h session name
    simpa [view_write hv, hv, Except.map] using hd
  · intro h other key
    rw [view_write hv]
    split
    · next ho =>
        subst ho
        simp only [hv, Except.map, Collections.documents_insert, h]
        split
        · next hk => rw [hk]
        · rfl
    · rfl

-- What is left to show of a write that fails: that it leaves the documents of
-- its own collection alone.
theorem write_error_sameDocuments (he : (s.write session name f).1 = .error e)
    (hf : ∀ docs, (f docs).outcome = .error e → (f docs).documents = docs) :
    s.SameDocuments (s.write session name f).2 := by
  cases hv : s.view session with
  | error e' =>
      rw [write_of_view_error hv]
      exact fun _ _ => rfl
  | ok data =>
      rw [write_outcome hv] at he
      exact (write_sameDocuments_iff hv).mpr (hf _ he)

end

theorem write_updateMany_sameDocuments_iff {s : Store} {session : Option SessionId} {name : String}
    {filter update : Document} {upsert : Bool} {fresh : ObjectId} {e : StoreError}
    (he : (s.write session name (Collection.update name filter update upsert false fresh)).1 = .error e) :
    s.SameDocuments (s.write session name (Collection.update name filter update upsert false fresh)).2 ↔
      ¬ ∃ data, s.view session = .ok data ∧
        ∃ d ∈ Collection.beforeFailure filter update (data.documents name),
          Collection.updated filter update d ≠ .ok d := by
  cases hv : s.view session with
  | error e' =>
      rw [write_of_view_error hv]
      simp [SameDocuments]
  | ok data =>
      rw [write_outcome hv] at he
      rw [write_sameDocuments_iff hv, Collection.update_each_error he,
        Collection.updateEach_documents_eq_iff]
      simp

-- A write that fails neither publishes nor holds back an event, and it leaves
-- all documents as they were, unless it is an update of many documents that
-- has changed one by the time it fails.
theorem failed_write_effect (s : Store) (session : Option SessionId) (c : Call) (hc : c.isWrite = true)
    (e : StoreError) (he : (s.perform session c).1 = .error e) :
    s.SameEvents (s.perform session c).2 ∧
      (s.SameDocuments (s.perform session c).2 ↔ ¬ s.ChangesBeforeFailing session c) := by
  by_cases hf : s.failing = some c.name
  · rw [perform_of_failing hf]
    refine ⟨⟨fun _ => rfl, rfl⟩, fun _ h => ?_, fun _ _ _ => rfl⟩
    cases c <;> simp_all [ChangesBeforeFailing]
  · rw [perform_of_ready hf] at he ⊢
    cases c with
    | insertOne name d =>
        refine ⟨write_error_sameEvents he, fun _ h => h, fun _ => ?_⟩
        exact write_error_sameDocuments he fun _ => Collection.insertOne_error
    | updateMany name filter update upsert =>
        refine ⟨write_error_sameEvents he, ?_⟩
        refine (write_updateMany_sameDocuments_iff he).trans (not_congr ?_)
        exact ⟨fun h => ⟨hf, h⟩, fun h => h.2⟩
    | updateOne name filter update upsert =>
        refine ⟨write_error_sameEvents he, fun _ h => h, fun _ => ?_⟩
        exact write_error_sameDocuments he fun _ => Collection.update_first_error
    | replaceOne name filter replacement upsert =>
        refine ⟨write_error_sameEvents he, fun _ h => h, fun _ => ?_⟩
        exact write_error_sameDocuments he fun _ => Collection.replaceOne_error
    | deleteMany name filter =>
        refine ⟨write_error_sameEvents he, fun _ h => h, fun _ => ?_⟩
        exact write_error_sameDocuments he fun _ => Collection.deleteMany_error
    | _ => cases hc

def twoDocuments : Store :=
  empty.after [
    (none, .insertOne "c" [("_id", .int32 1)]),
    (none, .insertOne "c" [("_id", .int32 2)])]

-- Naming the first identifier as the new one is no change to the first document
-- and refused at the second.
def markFirst : Call :=
  .updateMany "c" [] [("$set", .document [("v", .int32 1), ("_id", .int32 1)])] false

theorem failed_write_effect_markFirst :
    (twoDocuments.perform none markFirst).1 = .error .identifierImmutable ∧
      twoDocuments.SameEvents (twoDocuments.perform none markFirst).2 ∧
      (twoDocuments.SameDocuments (twoDocuments.perform none markFirst).2 ↔
        ¬ twoDocuments.ChangesBeforeFailing none markFirst) :=
  ⟨rfl, failed_write_effect twoDocuments none markFirst rfl .identifierImmutable rfl⟩

-- Not every write that fails leaves the documents as they were.
theorem failed_write_not_atomic :
    ¬ ∀ s : Store, s.Reachable → ∀ (session : Option SessionId) (c : Call), c.isWrite = true →
      ∀ e : StoreError, (s.perform session c).1 = .error e →
        s.SameDocuments (s.perform session c).2 ∧ s.SameEvents (s.perform session c).2 := by
  intro h
  have hs := (h twoDocuments ⟨_, rfl⟩ none markFirst rfl .identifierImmutable rfl).1 none "c"
  have hd : ([[("_id", .int32 1), ("v", .int32 1)], [("_id", .int32 2)]] : List Document) =
      [[("_id", .int32 1)], [("_id", .int32 2)]] := Except.ok.inj hs
  simp at hd

end Store

end DocStore
