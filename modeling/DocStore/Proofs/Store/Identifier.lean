import DocStore.Proofs.Collection.Identifier
import DocStore.Proofs.Store.Atomicity
import Mathlib.Data.List.Induction

namespace DocStore

namespace Call

-- The documents that a call carries.
def documents : Call → List Document
  | find _ filter options => filter :: (options.projection.toList ++ options.sort.toList)
  | aggregate _ stages _ => stages
  | runCommand command => [command]
  | runCommandCursor command => [command]
  | insertOne _ d => [d]
  | updateMany _ filter update _ => [filter, update]
  | updateOne _ filter update _ => [filter, update]
  | replaceOne _ filter replacement _ => [filter, replacement]
  | deleteMany _ filter => [filter]
  | distinct _ _ filter => [filter]
  | countDocuments _ filter => [filter]
  | _ => []

-- Whether no document that comes with the call has a key twice, at any depth.
def WellFormed (c : Call) : Prop := ∀ d ∈ c.documents, (Value.document d).WellFormed

def sparesId : Call → Bool
  | updateMany _ _ update _ => update.sparesId
  | updateOne _ _ update _ => update.sparesId
  | _ => true

-- The document that a call adds as an upsert.
def addition? (c : Call) (fresh : ObjectId) (docs : List Document) : Option Document :=
  match c with
  | updateMany _ filter update upsert =>
    Collection.upsertOf filter upsert (Collection.updateCreates filter update fresh) docs
  | updateOne _ filter update upsert =>
    Collection.upsertOf filter upsert (Collection.updateCreates filter update fresh) docs
  | replaceOne _ filter replacement upsert =>
    Collection.upsertOf filter upsert (some (Collection.replaceCreates filter replacement fresh)) docs
  | _ => none

-- The ways in which a write leaves the documents of its collection.
theorem write_cases {c : Call} {name : String} {f : ObjectId → List Document → Write c.Answer}
    (h : c.write? = some (name, f)) (hc : c.WellFormed) (hspare : c.sparesId = true) (fresh : ObjectId)
    {docs : List Document} (hdocs : Collection.Identified docs) :
    (∃ created, c.addition? fresh docs = some created ∧ created.Identified ∧
        (f fresh docs).documents = docs ++ [created]) ∨
      c.addition? fresh docs = none ∧
        (List.Forall₂ Document.KeepsId docs (f fresh docs).documents ∨
          (f fresh docs).documents.Sublist docs ∨
          ∃ stored, stored.Identified ∧ (∀ d ∈ docs, d.sharesId stored = false) ∧
            (f fresh docs).documents = docs ++ [stored]) := by
  cases c with
  | insertOne name d =>
      cases h
      refine Or.inr ⟨rfl, ?_⟩
      rcases Collection.insertOne_documents d with hsame | ⟨hadded, hnew⟩
      · exact Or.inr (Or.inl (hsame ▸ List.Sublist.refl _))
      · have hd := Document.idWellFormed_of_wellFormed (hc d List.mem_cons_self)
        have hstored : (d.withId none fresh).Identified :=
          Document.withId_identified (fun _ hv => by cases hv) hd
        exact Or.inr (Or.inr ⟨_, hstored, hnew, hadded⟩)
  | updateMany name filter update upsert =>
      cases h
      have hfilter := hc filter (by simp [documents])
      have hupdate := hc update (by simp [documents])
      refine (Collection.update_cases hspare hfilter hupdate).imp_right ?_
      exact fun hkeep => ⟨hkeep.1, Or.inl hkeep.2⟩
  | updateOne name filter update upsert =>
      cases h
      have hfilter := hc filter (by simp [documents])
      have hupdate := hc update (by simp [documents])
      refine (Collection.update_cases hspare hfilter hupdate).imp_right ?_
      exact fun hkeep => ⟨hkeep.1, Or.inl hkeep.2⟩
  | replaceOne name filter replacement upsert =>
      cases h
      have hfilter := hc filter (by simp [documents])
      have hreplacement := hc replacement (by simp [documents])
      refine (Collection.replaceOne_cases hfilter hreplacement hdocs).imp_right ?_
      exact fun hkeep => ⟨hkeep.1, Or.inl hkeep.2⟩
  | deleteMany name filter =>
      cases h
      exact Or.inr ⟨rfl, Or.inr (Or.inl Collection.deleteMany_sublist)⟩
  | _ => cases h

theorem write_identified {c : Call} {name : String} {f : ObjectId → List Document → Write c.Answer}
    (h : c.write? = some (name, f)) (hc : c.WellFormed) (hspare : c.sparesId = true) (fresh : ObjectId)
    {docs : List Document} (hdocs : Collection.Identified docs) :
    Collection.Identified (f fresh docs).documents := by
  have hconcat {stored : Document} (hstored : stored.Identified) :
      Collection.Identified (docs ++ [stored]) := by
    intro d hd
    rcases List.mem_append.mp hd with hold | hnew
    · exact hdocs d hold
    · exact List.mem_singleton.mp hnew ▸ hstored
  rcases write_cases h hc hspare fresh hdocs with ⟨created, _, hcreated, hdocuments⟩ |
    ⟨_, hkeep | hsub | ⟨stored, hstored, _, hdocuments⟩⟩
  · exact hdocuments ▸ hconcat hcreated
  · exact Collection.identified_of_keepsId hkeep hdocs
  · exact fun d hd => hdocs d (hsub.subset hd)
  · exact hdocuments ▸ hconcat hstored

theorem write_uniqueIds_iff {c : Call} {name : String} {f : ObjectId → List Document → Write c.Answer}
    (h : c.write? = some (name, f)) (hc : c.WellFormed) (hspare : c.sparesId = true) (fresh : ObjectId)
    {docs : List Document} (hdocs : Collection.Identified docs) (hu : Collection.UniqueIds docs) :
    Collection.UniqueIds (f fresh docs).documents ↔
      ∀ created, c.addition? fresh docs = some created → ∀ d ∈ docs, d.sharesId created = false := by
  rcases write_cases h hc hspare fresh hdocs with ⟨created, hadded, hcreated, hdocuments⟩ |
    ⟨hnone, hkept⟩
  · rw [hdocuments, Collection.uniqueIds_concat_iff hdocs hcreated, hadded]
    simp [hu]
  · simp only [hnone, reduceCtorEq, false_implies, implies_true, iff_true]
    rcases hkept with hkeep | hsub | ⟨stored, hstored, hnew, hdocuments⟩
    · exact hu.of_keepsId hkeep hdocs
    · exact hu.sublist hsub
    · rw [hdocuments]
      exact (Collection.uniqueIds_concat_iff hdocs hstored).mpr ⟨hu, hnew⟩

end Call

namespace Store

-- Whether every document has an identifier.
def Identified (s : Store) : Prop := s.All fun data => ∀ entry ∈ data, Collection.Identified entry.2

-- Whether in no collection two documents at different positions share their identifier.
def UniqueIds (s : Store) : Prop := s.All fun data => ∀ entry ∈ data, Collection.UniqueIds entry.2

-- Whether a call is let in and adds, as an upsert, a document under an identifier
-- that is in use in its collection.
def RepeatsId (s : Store) (session : Option SessionId) (c : Call) : Prop :=
  s.failing ≠ some c.name ∧
    ∃ data name created, s.view session = .ok data ∧ c.write?.map (·.1) = some name ∧
      c.addition? s.fresh (data.documents name) = some created ∧
      ∃ d ∈ data.documents name, d.sharesId created = true

section

variable {s : Store} {session : Option SessionId} {c : Call}

theorem forall_documents {data : Collections} {P : List Document → Prop} (hnil : P [])
    (h : ∀ entry ∈ data, P entry.2) (name : String) : P (data.documents name) := by
  simp only [Collections.documents, OrderedMap.getD]
  cases hdocs : OrderedMap.get? data name with
  | none => exact hnil
  | some docs => exact h _ (OrderedMap.mem_of_get? hdocs)

theorem identified_documents {data : Collections} (h : ∀ entry ∈ data, Collection.Identified entry.2)
    (name : String) : Collection.Identified (data.documents name) :=
  forall_documents (fun _ hd => absurd hd List.not_mem_nil) h name

theorem uniqueIds_documents {data : Collections} (h : ∀ entry ∈ data, Collection.UniqueIds entry.2)
    (name : String) : Collection.UniqueIds (data.documents name) :=
  forall_documents List.Pairwise.nil h name

-- What holds of the documents of every collection goes on to do so as far as a write keeps it.
theorem All.perform_documents {P : List Document → Prop} (hnil : P [])
    (h : s.All fun data => ∀ entry ∈ data, P entry.2)
    (hkept : ∀ name f, c.write? = some (name, f) → ∀ docs, P docs → P (f s.fresh docs).documents)
    (session : Option SessionId) :
    (s.perform session c).2.All fun data => ∀ entry ∈ data, P entry.2 := by
  cases hw : c.write? with
  | none =>
      refine All.perform_of_not_write h ?_ hw
      exact fun data name hdata entry hentry =>
        hdata entry ((OrderedMap.erase_sublist data name).subset hentry)
  | some write =>
      obtain ⟨name, f⟩ := write
      by_cases hf : s.failing = some c.name
      · exact All.perform_of_failing h hf
      · cases hv : s.view session with
        | error e => exact All.perform_of_view_error h hw hf hv
        | ok data =>
            have hdata := All.of_view h hv
            have hdocs := forall_documents hnil hdata name
            exact (All.perform_of_write_iff h hw hf hv).mpr
              ((OrderedMap.forall_mem_insert_iff hdata).mpr (hkept name f hw _ hdocs))

theorem Identified.perform (h : s.Identified) (hc : c.WellFormed) (hspare : c.sparesId = true)
    (session : Option SessionId) : (s.perform session c).2.Identified := by
  have hnil : Collection.Identified [] := fun _ hd => absurd hd List.not_mem_nil
  exact All.perform_documents hnil h
    (fun _ _ hw _ hdocs => Call.write_identified hw hc hspare s.fresh hdocs) session

-- A call keeps identifiers apart exactly if it does not add a document under one
-- that is in use.
theorem UniqueIds.perform_iff (hu : s.UniqueIds) (hi : s.Identified) (hc : c.WellFormed)
    (hspare : c.sparesId = true) (session : Option SessionId) :
    (s.perform session c).2.UniqueIds ↔ ¬ s.RepeatsId session c := by
  cases hw : c.write? with
  | none =>
      refine iff_of_true (All.perform_of_not_write hu ?_ hw) ?_
      · exact fun data name hdata entry hentry =>
          hdata entry ((OrderedMap.erase_sublist data name).subset hentry)
      · rintro ⟨_, data, name, created, _, htarget, _⟩
        simp [hw] at htarget
  | some write =>
      obtain ⟨name, f⟩ := write
      by_cases hf : s.failing = some c.name
      · exact iff_of_true (All.perform_of_failing hu hf) fun hrepeats => hrepeats.1 hf
      · cases hv : s.view session with
        | error e =>
            refine iff_of_true (All.perform_of_view_error hu hw hf hv) ?_
            rintro ⟨_, data, _, _, hdata, _⟩
            rw [hv] at hdata
            cases hdata
        | ok data =>
            have hdocs := identified_documents (All.of_view hi hv) name
            have hunique := All.of_view hu hv
            rw [UniqueIds, All.perform_of_write_iff hu hw hf hv,
              OrderedMap.forall_mem_insert_iff hunique,
              Call.write_uniqueIds_iff hw hc hspare s.fresh hdocs (uniqueIds_documents hunique name)]
            simp [RepeatsId, hf, hv, hw]

end

theorem identified_after {s : Store} (h : s.Identified) {calls : List (Option SessionId × Call)}
    (hcalls : ∀ made ∈ calls, made.2.WellFormed ∧ made.2.sparesId = true) :
    (s.after calls).Identified := by
  induction calls generalizing s with
  | nil => exact h
  | cons made rest ih =>
      obtain ⟨⟨hwf, hspare⟩, hrest⟩ := List.forall_mem_cons.mp hcalls
      exact ih (h.perform hwf hspare made.1) hrest

theorem after_concat (s : Store) (calls : List (Option SessionId × Call)) (made : Option SessionId × Call) :
    s.after (calls ++ [made]) = ((s.after calls).perform made.1 made.2).2 := by
  simp [after]

-- Along a run whose updates write nowhere below an identifier, identifiers stay
-- apart exactly as long as no upsert adds a document under one that is in use.
theorem uniqueIds_along_run_iff (calls : List (Option SessionId × Call))
    (hcalls : ∀ made ∈ calls, made.2.WellFormed ∧ made.2.sparesId = true) :
    (∀ before, before <+: calls → (empty.after before).UniqueIds) ↔
      ∀ before made, before ++ [made] <+: calls → ¬ (empty.after before).RepeatsId made.1 made.2 := by
  have hidentified {before : List (Option SessionId × Call)} (h : before <+: calls) :
      (empty.after before).Identified := by
    have hempty : empty.Identified := ⟨fun _ he => (by cases he), fun _ he => (by cases he)⟩
    exact identified_after hempty fun made hmade => hcalls made (h.subset hmade)
  have hstep {before : List (Option SessionId × Call)} {made : Option SessionId × Call}
      (h : before ++ [made] <+: calls) (hu : (empty.after before).UniqueIds) :
      (empty.after (before ++ [made])).UniqueIds ↔ ¬ (empty.after before).RepeatsId made.1 made.2 := by
    obtain ⟨hwf, hspare⟩ := hcalls made (h.subset (by simp))
    rw [after_concat]
    exact hu.perform_iff (hidentified ((List.prefix_append before [made]).trans h)) hwf hspare made.1
  constructor
  · intro hu before made h
    exact (hstep h (hu before ((List.prefix_append before [made]).trans h))).mp (hu _ h)
  · intro hrepeats before h
    induction before using List.reverseRecOn with
    | nil => exact ⟨fun _ he => (by cases he), fun _ he => (by cases he)⟩
    | append_singleton before made ih =>
        have hbefore := ih ((List.prefix_append before [made]).trans h)
        exact (hstep h hbefore).mpr (hrepeats before made h)

-- A document is replaced and another one upserted in a session that is
-- committed, and identifiers are set to what they are.
def committedUpsert : List (Option SessionId × Call) :=
  [
    (none, .insertOne "c" [("_id", .int32 1)]),
    (none, .startSession),
    (some ⟨0⟩, .replaceOne "c" [("_id", .int32 2)] [("v", .boolean true)] true),
    (none, .commitTransaction ⟨0⟩),
    (none, .updateMany "c" [("_id", .int32 2)]
      [("$set", .document [("_id", .int32 2), ("v", .null)])] false)
  ]

theorem uniqueIds_along_run_committedUpsert :
    (∀ made ∈ committedUpsert, made.2.WellFormed ∧ made.2.sparesId = true) ∧
      ((∀ before, before <+: committedUpsert → (empty.after before).UniqueIds) ↔
        ∀ before made, before ++ [made] <+: committedUpsert →
          ¬ (empty.after before).RepeatsId made.1 made.2) := by
  have hwf : ∀ made ∈ committedUpsert, made.2.WellFormed := by
    simp [committedUpsert, Call.WellFormed, Call.documents, Value.WellFormed, Value.WellFormedFields,
      OrderedMap.Distinct, OrderedMap.keys]
  have hspare : ∀ made ∈ committedUpsert, made.2.sparesId = true := by decide
  have hcalls : ∀ made ∈ committedUpsert, made.2.WellFormed ∧ made.2.sparesId = true :=
    fun made hmade => ⟨hwf made hmade, hspare made hmade⟩
  exact ⟨hcalls, uniqueIds_along_run_iff committedUpsert hcalls⟩

-- The query document finds nothing, for no document has the field, and demands
-- an identifier that is in use.
def upsertUsedId : List (Option SessionId × Call) :=
  [
    (none, .insertOne "c" [("_id", .int32 1)]),
    (none, .updateOne "c" [("_id", .int32 1), ("v", .int32 2)] [("$set", .document [("w", .int32 3)])] true)
  ]

-- Identifiers do not stay apart along every run of writes and sessions.
theorem writes_repeat_id :
    ¬ ∀ calls : List (Option SessionId × Call),
      (∀ made ∈ calls, made.2.WellFormed ∧ (made.2.isWrite = true ∨ made.2 = .startSession ∨
        (∃ id, made.2 = .commitTransaction id) ∨ ∃ id, made.2 = .abortTransaction id)) →
      (empty.after calls).UniqueIds := by
  intro h
  have hcalls : ∀ made ∈ upsertUsedId, made.2.WellFormed ∧ (made.2.isWrite = true ∨
      made.2 = .startSession ∨ (∃ id, made.2 = .commitTransaction id) ∨
        ∃ id, made.2 = .abortTransaction id) := by
    simp [upsertUsedId, Call.WellFormed, Call.documents, Call.isWrite, Value.WellFormed,
      Value.WellFormedFields, OrderedMap.Distinct, OrderedMap.keys]
  have hcommitted : (empty.after upsertUsedId).committed =
      [("c", [[("_id", .int32 1)], [("_id", .int32 1), ("v", .int32 2), ("w", .int32 3)]])] := rfl
  have hunique := (h upsertUsedId hcalls).1
  rw [hcommitted] at hunique
  have hdocs := List.pairwise_cons.mp (hunique _ List.mem_cons_self)
  have hshared := (hdocs.1 _ List.mem_cons_self).1
  cases hshared

-- Nor do they where an update writes below them, with no upsert at all.
theorem write_below_id_repeats_id :
    ¬ (empty.after [
        (none, .insertOne "c" [("_id", .int32 1)]),
        (none, .insertOne "c" [("_id", .int32 2)]),
        (none, .updateMany "c" [] [("$set", .document [("_id.v", .int32 3)])] false)]).UniqueIds := by
  intro h
  have hdocs := List.pairwise_cons.mp (h.1 _ List.mem_cons_self)
  have hshared := (hdocs.1 _ List.mem_cons_self).1
  cases hshared

end Store

end DocStore
