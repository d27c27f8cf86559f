import DocStore.Execute
import DocStore.Proofs.Client
import DocStore.Proofs.Selector.Identifier
import DocStore.Proofs.Store.View

namespace DocStore

-- Whether a text at the top of a document is turned into a date.
def Record.isTimestamp (s : String) : Bool :=
  looksLikeTimestamp s && (Timestamp.lenientMillis? s).isSome

-- Only a text that is not taken for a timestamp is read as a text again.
theorem Record.text?_coerceDate (s : String) :
    text? (coerceDate (.string s)) = if isTimestamp s then none else some s := by
  unfold coerceDate isTimestamp
  by_cases hlooks : looksLikeTimestamp s = true
  · cases hmillis : Timestamp.lenientMillis? s <;> simp [hlooks, hmillis, text?]
  · simp [hlooks, text?]

theorem Cursor.fetchOne_opened {α : Type} (decode : Decoder α) (scope : Scope) (d : Document)
    (rest : List Document) (spec : Option CountSpec) :
    ((opened scope { rest := d :: rest } spec).fetchOne decode).1 =
      (decode (Record.coerceDates d)).map some := by
  have hnext : ({ rest := d :: rest } : ResultStream).next = (.ok (some d), { rest }) := rfl
  simp only [fetchOne, opened, ready, hnext, decodeNext]
  cases decode (Record.coerceDates d) <;> rfl

namespace Employee

-- The first field of the record whose text is a timestamp.
def timestampField? (e : Employee) : Option String :=
  if Record.isTimestamp e.id then some "_id"
  else if Record.isTimestamp e.name then some "name"
  else if Record.isTimestamp e.dept then some "dept"
  else none

-- What is read of the record once the texts that are timestamps are dates.
def reread (e : Employee) : Except DbError Employee :=
  match e.timestampField? with
  | none => .ok e
  | some name => .error (.decode (.mismatch name))

theorem ofDocument_coerceDates (e : Employee) :
    ofDocument (Record.coerceDates e.toDocument) = e.reread := by
  let read := Record.coerceDates e.toDocument
  have hid : Record.field read "_id" = .ok (Record.coerceDate (.string e.id)) := rfl
  have hname : Record.field read "name" = .ok (Record.coerceDate (.string e.name)) := rfl
  have hdept : Record.field read "dept" = .ok (Record.coerceDate (.string e.dept)) := rfl
  have hsalary : Record.field read "salary" = .ok (.int32 e.salary) := rfl
  change ofDocument read = e.reread
  unfold ofDocument reread timestampField?
  simp only [hid, hname, hdept, hsalary, bind, Except.bind, Record.text?_coerceDate]
  by_cases hi : Record.isTimestamp e.id = true
  · simp [hi, Record.required]
  by_cases hn : Record.isTimestamp e.name = true
  · simp [hi, hn, Record.required]
  by_cases hd : Record.isTimestamp e.dept = true
  · simp [hi, hn, hd, Record.required]
  simp [hi, hn, hd, Record.required, Record.int32?, pure, Except.pure]

theorem holdsId_toDocument (e other : Employee) :
    Collection.holdsId (.string e.id) other.toDocument = (other.id == e.id) := rfl

theorem equals_id (e other : Employee) :
    Selector.equals (other.toDocument.get? "_id") (.string e.id) = (other.id == e.id) := rfl

theorem select_byId {records : List Employee} {e : Employee} (hnew : ∀ r ∈ records, r.id ≠ e.id) :
    Selector.select [("_id", .string e.id)] ((records ++ [e]).map toDocument) = .ok [e.toDocument] := by
  have hothers : (records.map toDocument).filter
      (fun d => Selector.equals (d.get? "_id") (.string e.id)) = [] := by
    rw [List.filter_eq_nil_iff]
    intro d hd
    obtain ⟨r, hr, rfl⟩ := List.mem_map.mp hd
    simpa [equals_id] using hnew r hr
  rw [Selector.select_eq_filter fun d _ => Selector.holds_id d e.id, List.map_append,
    List.filter_append, hothers]
  simp [equals_id]

variable {scope : Scope} {client : Client} {data : Collections} {records : List Employee}
  {e : Employee} {table : String}

theorem run_insert (hnaming : scope.config.fieldNaming = .asIs)
    (hview : client.store.view scope.session = .ok data)
    (hrecords : data.documents table = records.map toDocument) (hnew : ∀ r ∈ records, r.id ≠ e.id)
    (hready : client.store.failing ≠ some "insert_one") :
    ∃ after, Execute.run scope [.table table, .insert] { data := some e.toDocument } client =
        (.ok (.inserted e.toDocument), after) ∧
      after.store.view scope.session = .ok (data.insert table ((records ++ [e]).map toDocument)) ∧
      after.store.failing = client.store.failing := by
  have hunused : (data.documents table).any (Collection.holdsId (.string e.id)) = false := by
    rw [hrecords, List.any_map, List.any_eq_false]
    intro r hr
    simpa [holdsId_toDocument] using hnew r hr
  have hwhole : (scope.config.fieldNaming.renameKeys e.toDocument).withId none client.store.fresh =
      e.toDocument := by
    rw [hnaming]
    rfl
  have hid : e.toDocument.id? = some (.string e.id) := rfl
  obtain ⟨store, hperform, hstored, hfailing⟩ :=
    Store.perform_insertOne hview hready hwhole hid hunused
  let call : Call := .insertOne table (scope.config.fieldNaming.renameKeys e.toDocument)
  let written : Client := { client.note call scope.isBound with store }
  have hinsert : Execute.insert scope { table, kind := some .insert } { data := some e.toDocument }
      client = (.ok (.inserted e.toDocument), written) := by
    have hissue : scope.issue "unable to insert" call client = (.ok (.string e.id), written) :=
      Scope.issue_of_ok hperform
    simp only [Execute.insert, Execute.payload, ClientM.liftM_ok_bind]
    rw [ClientM.bind_of_ok _ hissue, hnaming]
    rfl
  have hprepare : prepare scope [.table table, .insert] =
      .ok ({ table, kind := some .insert }, []) := rfl
  refine ⟨written.emit (.execute .insert table scope.isBound true), ?_, ?_, hfailing⟩
  · simp only [Execute.run, hprepare, Execute.perform, hinsert]
  · rw [List.map_append, ← hrecords]
    exact hstored

theorem ofQuery_byId (hview : client.store.view scope.session = .ok data)
    (hrecords : data.documents table = (records ++ [e]).map toDocument)
    (hnew : ∀ r ∈ records, r.id ≠ e.id) (hready : client.store.failing ≠ some "find") :
    (Cursor.ofQuery scope [.table table, .filter (.field "_id" (.equal (.string e.id)))] client).1 =
      Cursor.opened scope { rest := [e.toDocument] } (some ⟨table, [("_id", .string e.id)]⟩) := by
  let g : GroupedQuery := { table, filter := some (.field "_id" (.equal (.string e.id))) }
  let selector : Document := [("_id", .string e.id)]
  have hprepare : prepare scope [.table table, .filter (.field "_id" (.equal (.string e.id)))] =
      .ok (g, selector) := rfl
  have hfound : Collection.find selector {} (data.documents table) = .ok [e.toDocument] := by
    rw [Collection.find, hrecords, select_byId hnew]
    rfl
  have hperform := Store.perform_find hview hready table selector {}
  rw [hfound] at hperform
  obtain ⟨after, hissue⟩ : ∃ after, scope.issue "unable to find" (.find table selector {}) client =
      (.ok { rest := [e.toDocument] }, after) := ⟨_, Scope.issue_of_ok hperform⟩
  have hopen : Cursor.openFind scope g selector client =
      (.ok (Cursor.opened scope { rest := [e.toDocument] } (some ⟨table, selector⟩)), after) :=
    ClientM.bind_of_ok _ hissue
  have hmode : Cursor.openAs scope g selector = (.find, Cursor.openFind scope g selector) := rfl
  simp only [Cursor.ofQuery, hprepare, hmode, hopen]
  rfl

theorem fetchOne_byId (hview : client.store.view scope.session = .ok data)
    (hrecords : data.documents table = (records ++ [e]).map toDocument)
    (hnew : ∀ r ∈ records, r.id ≠ e.id) (hready : client.store.failing ≠ some "find") :
    let opened := Cursor.ofQuery scope
      [.table table, .filter (.field "_id" (.equal (.string e.id)))] client
    (opened.1.fetchOne ofDocument).1 = e.reread.map some := by
  intro opened
  have hopened : opened.1 = _ := ofQuery_byId hview hrecords hnew hready
  rw [hopened, Cursor.fetchOne_opened, ofDocument_coerceDates]

-- An inserted record that is looked up by its identifier comes back as it
-- was, unless one of its texts is a timestamp; then the reading fails there.
theorem fetchOne_of_inserted (hnaming : scope.config.fieldNaming = .asIs)
    (hview : client.store.view scope.session = .ok data)
    (hrecords : data.documents table = records.map toDocument) (hnew : ∀ r ∈ records, r.id ≠ e.id)
    (hinsert : client.store.failing ≠ some "insert_one") (hfind : client.store.failing ≠ some "find") :
    let inserted := Execute.run scope [.table table, .insert] { data := some e.toDocument } client
    let opened := Cursor.ofQuery scope
      [.table table, .filter (.field "_id" (.equal (.string e.id)))] inserted.2
    inserted.1 = .ok (.inserted e.toDocument) ∧
      (opened.1.fetchOne ofDocument).1 =
        match e.timestampField? with
        | none => .ok (some e)
        | some name => .error (.decode (.mismatch name)) := by
  obtain ⟨after, hrun, hstored, hfailing⟩ := run_insert hnaming hview hrecords hnew hinsert
  have hfetch := fetchOne_byId hstored (Collections.documents_insert_self _ _ _) hnew
    (hfailing ▸ hfind)
  simp only [hrun, hfetch, reread, true_and]
  cases e.timestampField? <;> rfl

def clerk (id name : String) : Employee := ⟨id, name, "ops", 1⟩

theorem fetchOne_of_inserted_clerk :
    let e := clerk "b" "2024-13-45Tnope"
    let staff : Client := { store := { committed := [("staff", [(clerk "a" "Ann").toDocument])] } }
    let inserted := Execute.run { config := {} } [.table "staff", .insert]
      { data := some e.toDocument } staff
    let opened := Cursor.ofQuery { config := {} }
      [.table "staff", .filter (.field "_id" (.equal (.string e.id)))] inserted.2
    (opened.1.fetchOne ofDocument).1 = .ok (some e) := by
  intro e staff
  have hread := (@fetchOne_of_inserted { config := {} } staff staff.store.committed [clerk "a" "Ann"]
    e "staff" rfl rfl rfl (by decide) (by decide) (by decide)).2
  have hnone : e.timestampField? = none := by decide +kernel
  rw [hnone] at hread
  exact hread

-- A text that is a timestamp comes back as a date, and the record is not read again.
theorem inserted_not_always_reread :
    ¬ ∀ (scope : Scope) (client : Client) (data : Collections) (records : List Employee)
        (e : Employee) (table : String), scope.config.fieldNaming = .asIs →
      client.store.view scope.session = .ok data →
      data.documents table = records.map toDocument → (∀ r ∈ records, r.id ≠ e.id) →
      client.store.failing = none →
        ((Cursor.ofQuery scope [.table table, .filter (.field "_id" (.equal (.string e.id)))]
          (Execute.run scope [.table table, .insert] { data := some e.toDocument } client).2).1.fetchOne
            ofDocument).1 = .ok (some e) := by
  intro h
  have hread := h { config := {} } {} [] [] (clerk "a" "2024-03-01T10:20:30Z") "staff" rfl rfl rfl
    (by decide) rfl
  obtain ⟨after, hrun, hstored, hfailing⟩ := @run_insert { config := {} } {} [] []
    (clerk "a" "2024-03-01T10:20:30Z") "staff" rfl rfl rfl (by decide) (by decide)
  have hfetch := fetchOne_byId hstored (Collections.documents_insert_self _ _ _) (by decide)
    (hfailing ▸ by decide)
  have hfield : (clerk "a" "2024-03-01T10:20:30Z").timestampField? = some "name" := by decide +kernel
  rw [hrun, hfetch, reread, hfield] at hread
  cases hread

end Employee

end DocStore
