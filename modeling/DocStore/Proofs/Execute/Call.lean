import DocStore.Proofs.Execute.Guard
import DocStore.Proofs.Store.View

namespace DocStore

namespace ClientM

variable {α β : Type}

-- Refused before any call, or one call whose answer is reported.
inductive Single : ClientM α → Prop where
  | refuse (e : DbError) : Single (throw e)
  | report (session : Option SessionId) (activity : String) (c : Call) (f : c.Answer → α) :
      Single (f <$> Client.issue session activity c)

-- Whatever is checked first, and refused if it does not hold.
theorem Single.liftM_bind (r : Except DbError β) {f : β → ClientM α} (hf : ∀ b, Single (f b)) :
    Single (liftM r >>= f) := by
  cases r with
  | ok b => exact hf b
  | error e => exact .refuse e

theorem Single.throw_bind (e : DbError) (f : β → ClientM α) : Single (throw e >>= f) := .refuse e

theorem single_issue (session : Option SessionId) (activity : String) (c : Call) (f : c.Answer → α) :
    Single (do return f (← Client.issue session activity c)) := by
  rw [bind_pure_comp]
  exact .report session activity c f

theorem Single.map {x : ClientM α} (f : α → β) (hx : Single x) : Single (do return f (← x)) := by
  rw [bind_pure_comp]
  cases hx with
  | refuse e => exact .refuse e
  | report session activity c report =>
      rw [← comp_map]
      exact .report session activity c (f ∘ report)

end ClientM

open ClientM

namespace Client

variable {client : Client} {session : Option SessionId} {activity name : String} {chunkSize : Nat}

-- The client after a call that only opens a bucket.
def withBucket (client : Client) (bucket : Bucket) : Client :=
  { client.note (.bucket bucket.name bucket.chunkSize) false with
    store := { client.store with operations := client.store.operations + 1 } }

-- A bucket is what it was asked to be.
theorem issue_bucket (h : client.store.failing ≠ some "bucket") :
    issue session activity (.bucket name chunkSize) client =
      (.ok ⟨name, chunkSize⟩, client.withBucket ⟨name, chunkSize⟩) := by
  have hopens : client.store.perform session (.bucket name chunkSize) = _ := Store.perform_of_ready h
  simp only [issue, note, hopens]
  rfl

theorem issue_bucket_of_failing (h : client.store.failing = some "bucket") (session : Option SessionId)
    (activity name : String) (chunkSize : Nat) :
    ∃ after : Client, issue session activity (.bucket name chunkSize) client =
      (.error (.store activity (.injected "bucket")), after) ∧
        after.store.buckets = client.store.buckets := by
  have hfails : client.store.perform session (.bucket name chunkSize) = _ := Store.perform_of_failing h
  simp only [issue, note, hfails]
  exact ⟨_, rfl, rfl⟩

end Client

theorem Watcher.single_start (name : String) : Single (Watcher.start name) :=
  single_issue none "unable to watch" (.watch name) fun id =>
    ({ collection := name, subscription := id } : Watcher)

namespace Execute

section

variable (scope : Scope) (g : GroupedQuery) (selector : Document) (params : Params)

theorem single_insert : Single (insert scope g params) := by
  unfold insert
  apply Single.liftM_bind
  intro data
  exact single_issue scope.session _ (.insertOne ..) fun id =>
    ExecResult.inserted (OrderedMap.insert _ "_id" id)

theorem single_update : Single (update scope g selector params) := by
  unfold update
  dsimp only
  split
  · exact .throw_bind _ _
  · apply Single.liftM_bind
    intro data
    split
    · exact single_issue scope.session _ (.updateOne ..) ExecResult.updated
    · split
      · exact .throw_bind _ _
      · exact single_issue scope.session _ (.updateMany ..) ExecResult.updated

theorem single_delete : Single (delete scope g selector) := by
  unfold delete
  dsimp only
  split
  · exact .throw_bind _ _
  · exact single_issue scope.session _ (.deleteMany ..) ExecResult.deleted

theorem single_save : Single (save scope g params) := by
  unfold save
  apply Single.liftM_bind
  intro data
  apply Single.liftM_bind
  intro id
  split
  · exact single_issue scope.session _ (.replaceOne ..) ExecResult.updated
  · exact single_issue scope.session _ (.updateMany ..) ExecResult.updated

theorem single_command {c : Command} (h : c.name.isBlob = false) :
    Single (command scope g c selector params) := by
  unfold command
  rw [h]
  simp only [Bool.false_eq_true, if_false]
  split
  · apply Single.liftM_bind
    intro field
    exact single_issue scope.session _ (.distinct ..) ExecResult.values
  · split
    · exact single_issue scope.session _ (.runCommand _) ExecResult.reply
    · exact .refuse _
  · exact (Watcher.single_start g.table).map ExecResult.watcher
  · exact .refuse _

end

-- A blob command whose options can be read, with the bucket that it is for.
structure BlobRequest where
  bucket : Bucket
  name : CommandName
  options : BlobOptions

def blobRequestOf (scope : Scope) (g : GroupedQuery) : Option BlobRequest :=
  match g.kind, g.command with
  | some .command, some c =>
    if c.name.isBlob then
      match BlobOptions.ofPayload c.payload with
      | .ok o => some ⟨⟨g.table, o.chunkSize.getD scope.config.blobChunkSize⟩, c.name, o⟩
      | .error _ => none
    else none
  | _, _ => none

-- What a blob command does with the bucket that it has opened.
def useBucket (r : BlobRequest) (params : Params) (bucket : Bucket) : ClientM ExecResult :=
  match r.name with
  | .blobWrite => .stored <$> Blob.write bucket r.options params.source
  | .blobRead => .copied <$> Blob.read bucket r.options params.output
  | .blobRemove => (fun _ => .nothing) <$> Blob.remove bucket r.options
  | .blobTruncate => (fun _ => .nothing) <$> Blob.truncate bucket
  | name => throw (.dispatch (.invalidCommand name))

def openThenUse (scope : Scope) (r : BlobRequest) (params : Params) : ClientM ExecResult := do
  let bucket ← Client.issue scope.session "error prepare blob bucket"
    (.bucket r.bucket.name r.bucket.chunkSize)
  useBucket r params bucket

section

variable {scope : Scope} {g : GroupedQuery} {selector : Document} {params : Params}

theorem blobCommand_of_ok {c : Command} {o : BlobOptions} (h : BlobOptions.ofPayload c.payload = .ok o) :
    blobCommand scope g c params =
      openThenUse scope ⟨⟨g.table, o.chunkSize.getD scope.config.blobChunkSize⟩, c.name, o⟩ params := by
  unfold blobCommand openThenUse
  rw [h, ClientM.liftM_ok_bind]
  refine bind_congr fun bucket => ?_
  unfold useBucket
  cases c.name <;> simp only [bind_pure_comp]

theorem openThenUse_of_ready {r : BlobRequest} {client : Client} (h : client.store.failing ≠ some "bucket") :
    openThenUse scope r params client = useBucket r params r.bucket (client.withBucket r.bucket) := by
  unfold openThenUse
  rw [ClientM.bind_of_ok _ (Client.issue_bucket h)]

theorem openThenUse_of_failing {client : Client} (h : client.store.failing = some "bucket")
    (scope : Scope) (r : BlobRequest) (params : Params) :
    ∃ after : Client, openThenUse scope r params client =
      (.error (.store "error prepare blob bucket" (.injected "bucket")), after) ∧
        after.store.buckets = client.store.buckets := by
  obtain ⟨after, hissue, hafter⟩ := Client.issue_bucket_of_failing h scope.session
    "error prepare blob bucket" r.bucket.name r.bucket.chunkSize
  exact ⟨after, ClientM.bind_of_error _ hissue, hafter⟩

-- What a query asks for is a single call, or a bucket and something to do with it.
theorem perform_single_or_blob {kind : CommandKind} (hkind : g.kind = some kind) :
    (blobRequestOf scope g = none ∧ Single (perform scope g selector params kind)) ∨
      ∃ r, blobRequestOf scope g = some r ∧
        perform scope g selector params kind = openThenUse scope r params := by
  cases kind with
  | insert => exact .inl ⟨by simp [blobRequestOf, hkind], single_insert scope g params⟩
  | update => exact .inl ⟨by simp [blobRequestOf, hkind], single_update scope g selector params⟩
  | delete => exact .inl ⟨by simp [blobRequestOf, hkind], single_delete scope g selector⟩
  | save => exact .inl ⟨by simp [blobRequestOf, hkind], single_save scope g params⟩
  | command =>
      cases hc : g.command with
      | none =>
          refine .inl ⟨by simp [blobRequestOf, hkind, hc], ?_⟩
          simp only [perform, hc]
          exact .refuse _
      | some c =>
          have hperform : perform scope g selector params .command = command scope g c selector params := by
            simp only [perform, hc]
          rw [hperform]
          by_cases hblob : c.name.isBlob = true
          · have hcommand : command scope g c selector params = blobCommand scope g c params := by
              simp [command, hblob]
            rw [hcommand]
            cases hoptions : BlobOptions.ofPayload c.payload with
            | error e =>
                refine .inl ⟨by simp [blobRequestOf, hkind, hc, hblob, hoptions], ?_⟩
                unfold blobCommand
                rw [hoptions, ClientM.liftM_error_bind]
                exact .refuse e
            | ok o =>
                refine .inr ⟨_, ?_, blobCommand_of_ok hoptions⟩
                simp [blobRequestOf, hkind, hc, hblob, hoptions]
          · refine .inl ⟨by simp [blobRequestOf, hkind, hc, hblob], ?_⟩
            exact single_command scope g selector params (by simpa using hblob)

end

-- The blob command that a query asks for.
def blobRequest (scope : Scope) (clauses : List Clause) : Option BlobRequest :=
  match prepare scope clauses with
  | .ok (g, _) => blobRequestOf scope g
  | .error _ => none

-- What a query does, but for the line that it leaves in the trace.
def action (scope : Scope) (clauses : List Clause) (params : Params) : ClientM ExecResult := do
  let (g, selector) ← prepare scope clauses
  match g.kind with
  | none => throw (.dispatch .nothingToExecute)
  | some kind => perform scope g selector params kind

theorem action_of_kind {scope : Scope} {clauses : List Clause} {g : GroupedQuery} {selector : Document}
    {kind : CommandKind} (params : Params) (hprepare : prepare scope clauses = .ok (g, selector))
    (hkind : g.kind = some kind) : action scope clauses params = perform scope g selector params kind := by
  unfold action
  rw [hprepare, ClientM.liftM_ok_bind]
  simp only [hkind]

theorem run_eq_action (scope : Scope) (clauses : List Clause) (params : Params) (client : Client) :
    (run scope clauses params client).1 = (action scope clauses params client).1 ∧
      (run scope clauses params client).2.noted = (action scope clauses params client).2.noted ∧
      (run scope clauses params client).2.store = (action scope clauses params client).2.store := by
  cases hprepare : prepare scope clauses with
  | error e =>
      simp only [run, action, hprepare, ClientM.liftM_error_bind]
      exact ⟨rfl, rfl, rfl⟩
  | ok prepared =>
      obtain ⟨g, selector⟩ := prepared
      cases hkind : g.kind with
      | none =>
          simp only [run, action, hprepare, hkind, ClientM.liftM_ok_bind]
          exact ⟨rfl, rfl, rfl⟩
      | some kind =>
          obtain ⟨event, hrun⟩ := run_of_kind params client hprepare hkind
          rw [action_of_kind params hprepare hkind, hrun]
          exact ⟨rfl, rfl, rfl⟩

theorem action_cases (scope : Scope) (clauses : List Clause) (params : Params) :
    (blobRequest scope clauses = none ∧ Single (action scope clauses params)) ∨
      ∃ r, blobRequest scope clauses = some r ∧
        action scope clauses params = openThenUse scope r params := by
  unfold blobRequest action
  cases hprepare : prepare scope clauses with
  | error e => exact .inl ⟨rfl, .refuse e⟩
  | ok prepared =>
      obtain ⟨g, selector⟩ := prepared
      rw [ClientM.liftM_ok_bind]
      dsimp only
      cases hkind : g.kind with
      | none => exact .inl ⟨by simp only [blobRequestOf, hkind], .refuse _⟩
      | some kind => exact perform_single_or_blob hkind

end Execute

namespace Cursor

variable (scope : Scope) (g : GroupedQuery) (selector : Document)

theorem single_openAggregate (items : List AggregateItem) :
    Single (openAggregate scope g items selector) := by
  unfold openAggregate
  apply Single.liftM_bind
  intro stage
  exact single_issue scope.session _ (.aggregate ..) (opened scope · _)

theorem single_openPipeline (payload : Value) : Single (openPipeline scope g payload selector) := by
  unfold openPipeline
  apply Single.liftM_bind
  intro stages
  exact single_issue scope.session _ (.aggregate ..) (opened scope · none)

theorem single_openCommand (c : Command) : Single (openCommand scope g c selector) := by
  unfold openCommand
  split
  · exact single_openPipeline scope g selector _
  · exact single_openPipeline scope g selector _
  · split
    · exact single_issue scope.session _ (.runCommandCursor _) (opened scope · none)
    · exact .refuse _
  · exact .refuse _

theorem single_openFind : Single (openFind scope g selector) := by
  unfold openFind
  apply Single.liftM_bind
  intro projection
  exact single_issue scope.session _ (.find ..) (opened scope · _)

theorem single_openAs : Single (openAs scope g selector).2 := by
  unfold openAs
  split
  · exact single_openAggregate scope g selector _
  · exact single_openCommand scope g selector _
  · exact single_openFind scope g selector

end Cursor

end DocStore
