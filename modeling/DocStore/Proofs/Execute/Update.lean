import DocStore.Proofs.Collection.Update
import DocStore.Proofs.Execute.Write

namespace DocStore

namespace Execute

variable {scope : Scope} {g : GroupedQuery} {selector : Document} {params : Params} {client : Client}
  {clauses : List Clause} {docs : List Document}

-- The fields that an update query sets in the documents that it reaches.
def fieldsToSet (scope : Scope) (g : GroupedQuery) (params : Params) : Document :=
  let data := params.data.getD []
  if params.singleUpdate then data
  else allowedFields g.updateFields (scope.config.fieldNaming.renameKeys data)

-- All that an update query does: it fails for want of something, or it makes one
-- call and reports the answer.
theorem perform_update_cases (scope : Scope) (g : GroupedQuery) (selector : Document) (params : Params) :
    let update := setOf (fieldsToSet scope g params)
    (∃ missing, perform scope g selector params .update = throw (.precondition missing)) ∨
      (∃ activity, perform scope g selector params .update =
        ExecResult.updated <$> scope.issue activity (.updateOne g.table selector update false)) ∨
      ∃ activity, perform scope g selector params .update =
        ExecResult.updated <$> scope.issue activity (.updateMany g.table selector update false) := by
  dsimp only
  by_cases hselector : selector = []
  · exact Or.inl ⟨.whereForUpdate, by simp [perform, update, hselector]⟩
  cases hdata : params.data with
  | none => exact Or.inl ⟨.payload .update, by simp [perform, update, payload, hselector, hdata]⟩
  | some data =>
      by_cases hsingle : params.singleUpdate = true
      · have hset : fieldsToSet scope g params = data := by simp [fieldsToSet, hdata, hsingle]
        refine Or.inr (Or.inl ⟨"unable to update", ?_⟩)
        rw [hset]
        simp [perform, update, payload, hselector, hdata, hsingle]
      · let fields := allowedFields g.updateFields (scope.config.fieldNaming.renameKeys data)
        by_cases hfields : fields = []
        · refine Or.inl ⟨.updatableFields, ?_⟩
          simp [perform, update, payload, hselector, hdata, hsingle, fields, hfields]
        · have hset : fieldsToSet scope g params = fields := by simp [fieldsToSet, hdata, hsingle, fields]
          refine Or.inr (Or.inr ⟨"unable to update", ?_⟩)
          rw [hset]
          simp [perform, update, payload, hselector, hdata, hsingle, fields, hfields]

theorem wellFormed_fieldsToSet
    (hdata : ∀ data, params.data = some data → (Value.document data).WellFormed) :
    (Value.document (setOf (fieldsToSet scope g params))).WellFormed := by
  have hpayload : (Value.document (params.data.getD [])).WellFormed := by
    cases hsome : params.data with
    | none => exact Value.wellFormed_document_iff.mpr ⟨OrderedMap.distinct_nil, by simp⟩
    | some data => exact hdata data hsome
  refine Document.wellFormed_singleton "$set" ?_
  unfold fieldsToSet
  dsimp only
  split
  · exact hpayload
  · exact Document.wellFormed_of_sublist List.filter_sublist
      (Document.wellFormed_renameKeys scope.config.fieldNaming hpayload)

-- An update query changes nothing that anybody sees, or it is one update of the
-- documents of its collection.
theorem run_update_cases (params : Params) (hprepare : prepare scope clauses = .ok (g, selector))
    (hkind : g.kind = some .update) (hdocs : client.store.seen scope.session g.table = .ok docs) :
    (∃ e, (run scope clauses params client).1 = .error e) ∧
        (run scope clauses params client).2.store.Shows client.store scope.session g.table docs ∨
      ∃ onlyFirst,
        let written := Collection.updateEach g.table selector (setOf (fieldsToSet scope g params)) onlyFirst docs
        (∀ result, (run scope clauses params client).1 = .ok result →
          ∃ report, result = .updated report ∧ written.outcome = .ok report) ∧
        (run scope clauses params client).2.store.Shows client.store scope.session g.table
          written.documents := by
  obtain ⟨event, hrun⟩ := run_of_kind params client hprepare hkind
  rw [hrun]
  rcases perform_update_cases scope g selector params with ⟨missing, hrefuse⟩ | ⟨activity, hone⟩ |
    ⟨activity, hmany⟩
  · rw [hrefuse]
    exact Or.inl ⟨⟨_, rfl⟩, Store.shows_of_view_eq (fun _ => rfl) hdocs⟩
  · rw [hone]
    refine (Scope.report_write_cases (c := .updateOne g.table selector _ false) rfl hdocs activity
      ExecResult.updated).imp_right ?_
    intro hwritten
    simp only [Collection.update_of_no_upsert] at hwritten
    exact ⟨true, hwritten⟩
  · rw [hmany]
    refine (Scope.report_write_cases (c := .updateMany g.table selector _ false) rfl hdocs activity
      ExecResult.updated).imp_right ?_
    intro hwritten
    simp only [Collection.update_of_no_upsert] at hwritten
    exact ⟨false, hwritten⟩

-- An update that succeeds keeps an identifier if it writes nowhere below it, and
-- only then if the identifier is no document. So does an update query with what it
-- finds: wherever it breaks off, a document that has not been left as it was has
-- lost its identifier exactly if the query sets something below it.
theorem updates_keep_ids (update d : Document) (changed : Bool) (scope : Scope) (clauses : List Clause)
    (params : Params) (client : Client) (g : GroupedQuery) (selector : Document) (docs : List Document) :
    ((Value.document update).WellFormed → d.Identified → (update.applyUpdate d).outcome = .ok changed →
      (update.sparesId = true → d.KeepsId (update.applyUpdate d).document) ∧
      (¬ d.HasDocumentId → (d.KeepsId (update.applyUpdate d).document ↔ update.sparesId = true))) ∧
    (prepare scope clauses = .ok (g, selector) → g.kind = some .update →
      (∀ data, params.data = some data → (Value.document data).WellFormed) →
      client.store.seen scope.session g.table = .ok docs → Collection.Identified docs →
        let setting := setOf (fieldsToSet scope g params)
        let after := run scope clauses params client
        ∃ docs', after.2.store.Shows client.store scope.session g.table docs' ∧
          List.Forall₂ (Collection.KeptUnder setting) docs docs' ∧
          ∀ report, after.1 = .ok (.updated report) → report.matched ≠ 0 →
            (∀ e ∈ docs, ¬ e.HasDocumentId) →
              (List.Forall₂ Document.KeepsId docs docs' ↔ setting.sparesId = true)) := by
  constructor
  · intro hwf hd houtcome
    exact ⟨fun hspare => Document.applyUpdate_keepsId hspare hwf,
      fun hplain => Document.applyUpdate_keepsId_iff hd hplain hwf houtcome⟩
  · intro hprepare hkind hdata hdocs hids
    have hwf := @wellFormed_fieldsToSet scope g params hdata
    rcases run_update_cases params hprepare hkind hdocs with ⟨⟨e, hfails⟩, hshows⟩ |
      ⟨onlyFirst, hreport, hshows⟩
    · refine ⟨docs, hshows, ?_, fun report hok => ?_⟩
      · exact List.forall₂_same.mpr fun d _ => Collection.KeptUnder.refl _ d
      · cases hfails.symm.trans hok
    · have hkept := Collection.updateEach_keptUnder hids hwf g.table selector onlyFirst
      refine ⟨_, hshows, hkept, fun report hok hmatched hplain => ⟨fun hkeep => ?_, fun hspare => ?_⟩⟩
      · -- a document that was found would have lost its identifier
        obtain ⟨own, hown, houtcome⟩ := hreport _ hok
        cases hown
        by_contra hspare
        have hbelow : ∃ field ∈ fieldsToSet scope g params, Path.isBelowId field.1 = true := by
          simpa [Document.sparesId, setOf] using hspare
        exact Collection.updateEach_set_loses_id hids hplain hbelow houtcome hmatched hkeep
      · exact hkept.imp fun d e h => h.spared hspare

def inventory : List Document := [[("_id", .int32 1), ("seen", .boolean false)], [("_id", .int32 2)]]

theorem inventory_identified : Collection.Identified inventory := by
  intro d hd
  simp only [inventory, List.mem_cons, List.not_mem_nil, or_false] at hd
  rcases hd with rfl | rfl
  · exact ⟨.int32 1, rfl, trivial⟩
  · exact ⟨.int32 2, rfl, trivial⟩

theorem inventory_plain : ∀ d ∈ inventory, ¬ d.HasDocumentId := by
  simp [inventory, Document.HasDocumentId, Document.id?, OrderedMap.get?]

def warehouse : Client := { store := { committed := [("c", inventory)] } }

-- Only the fields that are named may change, in whatever case they are written.
def markSeen : List Clause :=
  [.table "c", .filter (.field "_id" (.equal (.int32 1))), .update ["seen"]]

-- All fields may change.
def markWhole : List Clause := [.table "c", .filter (.field "_id" (.equal (.int32 1))), .update []]

def seenPayload : Document := [("_ID", .int32 9), ("Seen", .boolean true)]

-- A field below the identifier.
def partOfId : Document := [("_id.x", .int32 3)]

theorem updates_keep_ids_markSeen :
    ¬ Document.KeepsId [("_id", .int32 1)] ((setOf partOfId).applyUpdate [("_id", .int32 1)]).document ∧
    ∃ docs', (run { config := { fieldNaming := .lowercase } } markSeen { data := some seenPayload }
        warehouse).2.store.Shows warehouse.store none "c" docs' ∧
      List.Forall₂ Document.KeepsId inventory docs' := by
  obtain ⟨hdocument, hquery⟩ := updates_keep_ids (setOf partOfId) [("_id", .int32 1)] true
    { config := { fieldNaming := .lowercase } } markSeen { data := some seenPayload } warehouse
    { table := "c", filter := some (.field "_id" (.equal (.int32 1))), updateFields := ["seen"],
      kind := some .update }
    [("_id", .int32 1)] inventory
  constructor
  · have hwf : (Value.document (setOf partOfId)).WellFormed := by
      simp [setOf, partOfId, Value.WellFormed, Value.WellFormedFields, OrderedMap.Distinct, OrderedMap.keys]
    have hplain : ¬ Document.HasDocumentId [("_id", .int32 1)] := by
      simp [Document.HasDocumentId, Document.id?, OrderedMap.get?]
    have heffect := hdocument hwf ⟨.int32 1, rfl, trivial⟩ rfl
    exact fun hkeep => absurd ((heffect.2 hplain).mp hkeep) (by decide)
  · have hdata : ∀ data, some seenPayload = some data → (Value.document data).WellFormed := by
      rintro _ ⟨⟩
      simp [seenPayload, Value.WellFormed, Value.WellFormedFields, OrderedMap.Distinct, OrderedMap.keys]
    obtain ⟨docs', hshows, _, hexact⟩ := hquery rfl rfl hdata rfl inventory_identified
    exact ⟨docs', hshows, (hexact ⟨1, 1, false⟩ rfl (by decide) inventory_plain).mpr (by decide)⟩

-- Not every update keeps the identifier, nor does every update query.
theorem updates_lose_ids :
    ¬ (∀ (update d : Document) (changed : Bool), (Value.document update).WellFormed → d.Identified →
      (update.applyUpdate d).outcome = .ok changed → d.KeepsId (update.applyUpdate d).document) ∧
    ¬ ∀ docs' : List Document,
      (run { config := {} } markWhole { data := some partOfId } warehouse).2.store.Shows
          warehouse.store none "c" docs' →
        List.Forall₂ Document.KeepsId inventory docs' := by
  constructor
  · intro h
    have hwf : (Value.document (setOf partOfId)).WellFormed := by
      simp [setOf, partOfId, Value.WellFormed, Value.WellFormedFields, OrderedMap.Distinct, OrderedMap.keys]
    have hplain : ¬ Document.HasDocumentId [("_id", .int32 1)] := by
      simp [Document.HasDocumentId, Document.id?, OrderedMap.get?]
    have hid : Document.Identified [("_id", .int32 1)] := ⟨.int32 1, rfl, trivial⟩
    exact Document.applyUpdate_loses_id hid hplain rfl (by decide) (h (setOf partOfId) _ true hwf hid rfl)
  · intro h
    have hcases := @run_update_cases { config := {} } _ _ warehouse markWhole inventory
      { data := some partOfId } rfl rfl rfl
    rcases hcases with ⟨⟨e, hfails⟩, _⟩ | ⟨onlyFirst, hreport, hshows⟩
    · cases hfails
    · obtain ⟨report, hupdated, houtcome⟩ := hreport (.updated ⟨1, 1, false⟩) rfl
      cases hupdated
      exact Collection.updateEach_set_loses_id inventory_identified inventory_plain (by decide) houtcome
        (by decide) (h _ hshows)

end Execute

end DocStore
