import DocStore.Proofs.Collection.Save
import DocStore.Proofs.Execute.Write

namespace DocStore

namespace Execute

variable {scope : Scope} {g : GroupedQuery} {selector : Document} {params : Params} {client : Client}
  {clauses : List Clause} {docs : List Document} {data d : Document} {id : Value} {fresh : ObjectId}

-- What a save of a document makes of its collection.
def saved (mode : SaveMode) (name : String) (id : Value) (d : Document) (fresh : ObjectId)
    (docs : List Document) : Write UpdateReport :=
  match mode with
  | .replace => Collection.replaceOne name [("_id", id)] d true fresh docs
  | .merge => Collection.update name [("_id", id)] (setOf (d.erase "_id")) true false fresh docs

-- Whether a save writes to the one document with its identifier, and to no other.
def SavesOne (mode : SaveMode) (id : Value) (d : Document) (fresh : ObjectId) (docs : List Document) : Prop :=
  match mode with
  | .replace => Collection.ReplacesOne id docs
  | .merge => Collection.UpdatesOne id [("_id", id)] (setOf (d.erase "_id")) fresh docs

theorem id?_of_identifierOf (h : identifierOf d = .ok id) : d.id? = some id := by
  unfold identifierOf at h
  split at h
  · split at h
    · cases h
      assumption
    · cases h
  · cases h

-- All that a save does: it fails for want of an identifier, or it makes the call of
-- its mode and reports the answer.
theorem perform_save_cases (scope : Scope) (g : GroupedQuery) (selector : Document)
    (hdata : params.data = some data) :
    let d := scope.config.fieldNaming.renameKeys data
    (∃ missing, perform scope g selector params .save = throw (.precondition missing)) ∨
      ∃ id, identifierOf d = .ok id ∧
        (scope.config.saveMode = .replace ∧ perform scope g selector params .save =
            ExecResult.updated <$> scope.issue "unable to save" (.replaceOne g.table [("_id", id)] d true) ∨
          scope.config.saveMode = .merge ∧ perform scope g selector params .save =
            ExecResult.updated <$> scope.issue "unable to save"
              (.updateMany g.table [("_id", id)] (setOf (d.erase "_id")) true)) := by
  dsimp only
  cases hid : identifierOf (scope.config.fieldNaming.renameKeys data) with
  | error e =>
      have hmissing : e = .precondition .identifier := by
        unfold identifierOf at hid
        split at hid
        · split at hid <;> cases hid
          rfl
        · cases hid
          rfl
      exact Or.inl ⟨.identifier, by simp [perform, save, payload, hdata, hid, hmissing]⟩
  | ok id =>
      refine Or.inr ⟨id, rfl, ?_⟩
      cases hmode : scope.config.saveMode with
      | replace => exact Or.inl ⟨rfl, by simp [perform, save, payload, hdata, hid, hmode]⟩
      | merge => exact Or.inr ⟨rfl, by simp [perform, save, payload, hdata, hid, hmode]⟩

-- A save changes nothing that anybody sees, or it is the write of its mode.
theorem run_save_cases (hprepare : prepare scope clauses = .ok (g, selector)) (hkind : g.kind = some .save)
    (hdata : params.data = some data) (hdocs : client.store.seen scope.session g.table = .ok docs) :
    let d := scope.config.fieldNaming.renameKeys data
    (∃ e, (run scope clauses params client).1 = .error e) ∧
        (run scope clauses params client).2.store.Shows client.store scope.session g.table docs ∨
      ∃ id, identifierOf d = .ok id ∧
        let written := saved scope.config.saveMode g.table id d client.store.fresh docs
        (∀ result, (run scope clauses params client).1 = .ok result →
          ∃ report, result = .updated report ∧ written.outcome = .ok report) ∧
        (run scope clauses params client).2.store.Shows client.store scope.session g.table
          written.documents := by
  dsimp only
  obtain ⟨event, hrun⟩ := run_of_kind params client hprepare hkind
  rw [hrun]
  rcases perform_save_cases scope g selector hdata with ⟨missing, hrefuse⟩ | ⟨id, hid, hcall⟩
  · rw [hrefuse]
    exact Or.inl ⟨⟨_, rfl⟩, Store.shows_of_view_eq (fun _ => rfl) hdocs⟩
  · rcases hcall with ⟨hmode, hreplace⟩ | ⟨hmode, hmerge⟩
    · rw [hreplace]
      refine (Scope.report_write_cases (c := .replaceOne g.table _ _ true) rfl hdocs "unable to save"
        ExecResult.updated).imp_right fun hwritten => ⟨id, hid, ?_⟩
      rw [hmode]
      exact hwritten
    · rw [hmerge]
      refine (Scope.report_write_cases (c := .updateMany g.table _ _ true) rfl hdocs "unable to save"
        ExecResult.updated).imp_right fun hwritten => ⟨id, hid, ?_⟩
      rw [hmode]
      exact hwritten

theorem saved_touchesOne_iff {mode : SaveMode} {name : String} {report : UpdateReport} (hid : id.WellFormed)
    (hown : d.id? = some id) (hdocs : Collection.Identified docs) (hu : Collection.UniqueIds docs)
    (h : (saved mode name id d fresh docs).outcome = .ok report) :
    Collection.TouchesOne id docs (saved mode name id d fresh docs).documents report.upserted ↔
      SavesOne mode id d fresh docs := by
  cases mode with
  | replace => exact Collection.replaceOne_touchesOne_iff hid hown hdocs hu h
  | merge => exact Collection.update_touchesOne_iff hid hdocs hu h

theorem savesOne_of_finds {mode : SaveMode} {name : String} {report : UpdateReport} (hid : id.WellFormed)
    (hd : (Value.document d).WellFormed) (hdocs : Collection.Identified docs) (hdata : id.isData = true)
    (hnan : id.hasNaN = false) (hspare : mode = .merge → (setOf d).sparesId = true)
    (hfinds : ∀ e ∈ docs, Selector.equals e.id? id = Collection.holdsId id e)
    (h : (saved mode name id d fresh docs).outcome = .ok report) : SavesOne mode id d fresh docs := by
  cases mode with
  | replace => exact Collection.replacesOne_of_finds hdata hnan hfinds
  | merge =>
      have hsub : (d.erase "_id").Sublist d := OrderedMap.erase_sublist d "_id"
      have hwf := Document.wellFormed_singleton "$set" (Document.wellFormed_of_sublist hsub hd)
      have hrest : (setOf (d.erase "_id")).sparesId = true := by
        have hall : ∀ field ∈ d, Path.isBelowId field.1 = false := by
          simpa [Document.sparesId, setOf] using hspare rfl
        simpa [Document.sparesId, setOf] using fun field hfield => hall field (hsub.subset hfield)
      exact Collection.updatesOne_of_finds hid hdocs hdata hnan hrest hwf hfinds h

-- A save that succeeds leaves every document without its identifier as it was, and
-- one document with it, exactly if it replaces what it finds or adds a document under
-- an identifier not in use, or merges into what has the identifier and nothing else.
-- A value that stands for itself is enough for that if it is found where it is the
-- identifier and only there, unless a field to merge leads into the identifier.
theorem saves_touch_one {result : ExecResult} (hprepare : prepare scope clauses = .ok (g, selector))
    (hkind : g.kind = some .save) (hdata : params.data = some data) (hwf : (Value.document data).WellFormed)
    (hdocs : client.store.seen scope.session g.table = .ok docs) (hids : Collection.Identified docs)
    (hu : Collection.UniqueIds docs) (hok : (run scope clauses params client).1 = .ok result) :
    let d := scope.config.fieldNaming.renameKeys data
    ∃ id report docs', identifierOf d = .ok id ∧ result = .updated report ∧
      (run scope clauses params client).2.store.Shows client.store scope.session g.table docs' ∧
      (Collection.TouchesOne id docs docs' report.upserted ↔
        SavesOne scope.config.saveMode id d client.store.fresh docs) ∧
      (id.isData = true → id.hasNaN = false →
        (∀ e ∈ docs, Selector.equals e.id? id = Collection.holdsId id e) →
        (scope.config.saveMode = .merge → (setOf d).sparesId = true) →
          Collection.TouchesOne id docs docs' report.upserted) := by
  dsimp only
  rcases run_save_cases hprepare hkind hdata hdocs with ⟨⟨e, hfails⟩, _⟩ | ⟨id, hid, hreport, hshows⟩
  · cases hfails.symm.trans hok
  · obtain ⟨report, hresult, houtcome⟩ := hreport result hok
    have hown := id?_of_identifierOf hid
    have hd := Document.wellFormed_renameKeys scope.config.fieldNaming hwf
    have hidwf := Document.idWellFormed_of_wellFormed hd id hown
    have hiff := saved_touchesOne_iff hidwf hown hids hu houtcome
    refine ⟨id, report, _, hid, hresult, hshows, hiff, fun hself hnan hfinds hspare => hiff.mpr ?_⟩
    exact savesOne_of_finds hidwf hd hids hself hnan hspare hfinds houtcome

def tickets : List Document := [[("_id", .int32 1)], [("_id", .string "b"), ("n", .int32 1)]]

def office : Client := { store := { committed := [("c", tickets)] } }

def merging : Scope := { config := { saveMode := .merge } }

def saveTicket : List Clause := [.table "c", .save]

theorem tickets_identified : Collection.Identified tickets := by
  intro d hd
  simp only [tickets, List.mem_cons, List.not_mem_nil, or_false] at hd
  rcases hd with rfl | rfl
  · exact ⟨.int32 1, rfl, trivial⟩
  · exact ⟨.string "b", rfl, trivial⟩

theorem tickets_uniqueIds : Collection.UniqueIds tickets := by
  simp [tickets, Collection.UniqueIds, Document.sharesId, Document.id?, OrderedMap.get?, Value.same]

def ticketPayload : Document := [("_id", .string "b"), ("n", .int32 2)]

theorem saves_touch_one_ticket :
    ∃ docs', (run merging saveTicket { data := some ticketPayload } office).2.store.Shows office.store none
        "c" docs' ∧
      Collection.TouchesOne (.string "b") tickets docs' false := by
  have hwf : (Value.document ticketPayload).WellFormed := by
    simp [ticketPayload, Value.WellFormed, Value.WellFormedFields, OrderedMap.Distinct, OrderedMap.keys]
  have hfinds : ∀ e ∈ tickets, Selector.equals e.id? (.string "b") = Collection.holdsId (.string "b") e := by
    simp [tickets, Document.id?, OrderedMap.get?, Selector.equals, Selector.equalValues, Value.isNumber,
      Collection.holdsId, Value.same]
  obtain ⟨id, report, docs', hid, hresult, hshows, _, htouches⟩ := @saves_touch_one merging _ _
    { data := some ticketPayload } office saveTicket tickets ticketPayload (.updated ⟨1, 1, false⟩)
    rfl rfl rfl hwf rfl tickets_identified tickets_uniqueIds rfl
  cases hid
  cases hresult
  exact ⟨docs', hshows, htouches rfl rfl hfinds fun _ => by decide⟩

def positivePayload : Document := [("_id", .document [("$gt", .int32 0)]), ("n", .int32 9)]

-- An identifier that asks for numbers: the one that it finds is written to, and no
-- document has the identifier afterwards.
theorem saves_touch_others :
    Collection.Identified tickets ∧ Collection.UniqueIds tickets ∧
    ¬ ∀ (payload : Document) (id : Value) (report : UpdateReport) (docs' : List Document),
      (Value.document payload).WellFormed → identifierOf payload = .ok id →
      (run merging saveTicket { data := some payload } office).1 = .ok (.updated report) →
      (run merging saveTicket { data := some payload } office).2.store.seen none "c" = .ok docs' →
        Collection.TouchesOne id tickets docs' report.upserted := by
  refine ⟨tickets_identified, tickets_uniqueIds, fun h => ?_⟩
  have hwf : (Value.document positivePayload).WellFormed := by
    simp [positivePayload, Value.WellFormed, Value.WellFormedFields, OrderedMap.Distinct, OrderedMap.keys]
  have htouches := h positivePayload (.document [("$gt", .int32 0)]) ⟨1, 1, false⟩
    [[("_id", .int32 1), ("n", .int32 9)], [("_id", .string "b"), ("n", .int32 1)]] hwf rfl rfl rfl
  have hfirst := htouches.others 0 [("_id", .int32 1)] rfl rfl
  simp at hfirst

end Execute

end DocStore
