import DocStore.Proofs.Cursor.Open
import DocStore.Proofs.Execute.Call

namespace DocStore

-- Whether a failure lies in what was asked for.
def DbError.isFault : DbError → Bool
  | malformed _ => true
  | unknownOperator _ => true
  | precondition _ => true
  | dispatch _ => true
  | _ => false

namespace ClientM

variable {α β : Type}

-- Whether failures never lie in what was asked for.
def NeverFault (x : ClientM α) : Prop :=
  ∀ client e, (x client).1 = .error e → e.isFault = false

-- Whether what was asked for is looked at before anything is done.
def ChecksFirst (x : ClientM α) : Prop :=
  ∀ client e, (x client).1 = .error e → e.isFault = true → (x client).2 = client

theorem neverFault_issue (session : Option SessionId) (activity : String) (c : Call) :
    NeverFault (Client.issue session activity c) := by
  intro client e h
  unfold Client.issue at h
  dsimp only at h
  split at h
  · cases h
  · cases h
    rfl

theorem neverFault_onStore (activity : String) (f : Store → Except StoreError α × Store) :
    NeverFault (Client.onStore activity f) := by
  intro client e h
  unfold Client.onStore at h
  split at h
  · cases h
  · cases h
    rfl

theorem NeverFault.bind {x : ClientM α} {f : α → ClientM β} (hx : NeverFault x)
    (hf : ∀ a, NeverFault (f a)) : NeverFault (x >>= f) := by
  intro client e h
  cases hfirst : x client with
  | mk r after =>
      cases r with
      | ok a =>
          rw [bind_of_ok f hfirst] at h
          exact hf a after e h
      | error own =>
          rw [bind_of_error f hfirst] at h
          cases h
          exact hx client e (by rw [hfirst])

theorem NeverFault.map {x : ClientM α} (f : α → β) (hx : NeverFault x) : NeverFault (f <$> x) := by
  rw [map_eq_pure_bind]
  exact hx.bind fun _ _ _ h => by cases h

theorem NeverFault.checksFirst {x : ClientM α} (hx : NeverFault x) : ChecksFirst x := by
  intro client e h hfault
  rw [hx client e h] at hfault
  cases hfault

theorem checksFirst_throw (e : DbError) : ChecksFirst (throw e : ClientM α) := fun _ _ _ _ => rfl

theorem ChecksFirst.liftM_bind (r : Except DbError β) {f : β → ClientM α} (hf : ∀ b, ChecksFirst (f b)) :
    ChecksFirst (liftM r >>= f) := by
  cases r with
  | ok b => exact hf b
  | error e => exact checksFirst_throw e

theorem ChecksFirst.map {x : ClientM α} (f : α → β) (hx : ChecksFirst x) : ChecksFirst (f <$> x) := by
  intro client e h hfault
  rw [map_snd]
  cases hfirst : x client with
  | mk r after =>
      cases r with
      | ok a =>
          rw [map_of_ok f hfirst] at h
          cases h
      | error own =>
          rw [map_eq_pure_bind, bind_of_error _ hfirst] at h
          cases h
          have hsame := hx client e (by rw [hfirst]) hfault
          rwa [hfirst] at hsame

-- A call fails on the store, and whatever fails otherwise does so before the call.
theorem Single.checksFirst {x : ClientM α} (hx : Single x) : ChecksFirst x := by
  cases hx with
  | refuse e => exact checksFirst_throw e
  | report session activity c f => exact ((neverFault_issue session activity c).map f).checksFirst

end ClientM

open ClientM

namespace Blob

variable (bucket : Bucket) (o : BlobOptions)

theorem checksFirst_write (source : Option ByteSource) : ChecksFirst (write bucket o source) := by
  unfold write
  cases source with
  | none => exact checksFirst_throw _
  | some source =>
      have hforget : NeverFault (forget bucket o.id) := by
        intro client e h
        unfold forget at h
        split at h <;> cases h
      exact (hforget.bind fun _ => neverFault_onStore _ _).checksFirst

theorem checksFirst_read (output : Option ByteSink) : ChecksFirst (read bucket o output) := by
  unfold read
  cases output with
  | none => exact checksFirst_throw _
  | some sink =>
      dsimp only
      split
      · exact checksFirst_throw _
      · exact ((neverFault_onStore _ _).bind fun _ => neverFault_onStore _ _).checksFirst

theorem checksFirst_remove : ChecksFirst (remove bucket o) := by
  unfold remove
  apply ChecksFirst.liftM_bind
  intro id
  exact (neverFault_onStore _ _).checksFirst

end Blob

namespace Execute

variable {scope : Scope} {clauses : List Clause} {params : Params} {client : Client} {e : DbError}

theorem checksFirst_useBucket (r : BlobRequest) (params : Params) (bucket : Bucket) :
    ChecksFirst (useBucket r params bucket) := by
  unfold useBucket
  split
  · exact (Blob.checksFirst_write bucket r.options params.source).map _
  · exact (Blob.checksFirst_read bucket r.options params.output).map _
  · exact (Blob.checksFirst_remove bucket r.options).map _
  · exact ((neverFault_onStore _ _).map _).checksFirst
  · exact checksFirst_throw _

-- No call was made and nothing is changed.
def Untouched (client after : Client) : Prop :=
  after.noted = client.noted ∧ after.store = client.store

theorem openThenUse_of_fault {r : BlobRequest} (h : (openThenUse scope r params client).1 = .error e)
    (hfault : e.isFault = true) :
    (openThenUse scope r params client).2 = client.withBucket r.bucket := by
  by_cases hready : client.store.failing = some "bucket"
  · -- a bucket that cannot be opened is a failure of the store
    obtain ⟨after, hopen, -⟩ := openThenUse_of_failing hready scope r params
    rw [hopen] at h
    cases h
    cases hfault
  · rw [openThenUse_of_ready hready] at h ⊢
    exact checksFirst_useBucket r params r.bucket _ e h hfault

theorem run_of_fault (h : (run scope clauses params client).1 = .error e) (hfault : e.isFault = true) :
    match blobRequest scope clauses with
    | none => Untouched client (run scope clauses params client).2
    | some r => Untouched (client.withBucket r.bucket) (run scope clauses params client).2 := by
  obtain ⟨hresult, hnoted, hstore⟩ := run_eq_action scope clauses params client
  unfold Untouched
  rw [hnoted, hstore]
  rw [hresult] at h
  rcases action_cases scope clauses params with ⟨hnone, hsingle⟩ | ⟨r, hr, haction⟩
  · have hsame := hsingle.checksFirst client e h hfault
    rw [hnone, hsame]
    exact ⟨rfl, rfl⟩
  · rw [haction] at h ⊢
    rw [hr, openThenUse_of_fault h hfault]
    exact ⟨rfl, rfl⟩

theorem ofQuery_of_fault (h : (Cursor.ofQuery scope clauses client).1.error = some e)
    (hfault : e.isFault = true) : Untouched client (Cursor.ofQuery scope clauses client).2 := by
  unfold Cursor.ofQuery at h ⊢
  cases hprepare : prepare scope clauses with
  | error own => exact ⟨rfl, rfl⟩
  | ok prepared =>
      obtain ⟨g, selector⟩ := prepared
      have hopens := Cursor.opens_openAs scope g selector client
      have hchecks := (Cursor.single_openAs scope g selector).checksFirst client
      rw [hprepare] at h
      dsimp only at h ⊢
      cases hopen : (Cursor.openAs scope g selector).2 client with
      | mk r after =>
          rw [hopen] at h hchecks hopens
          cases r with
          | ok c =>
              -- a cursor that is opened has nothing on record
              have hclear : c.error = none := (hopens.1 c rfl).1
              have hrecord : c.error = some e := h
              rw [hclear] at hrecord
              cases hrecord
          | error own =>
              have hown : own = e := Option.some.inj h
              have hsame : after = client := hchecks own rfl (hown ▸ hfault)
              rw [hsame]
              exact ⟨rfl, rfl⟩

-- A query that is refused for what it asks is refused before any call is made, but for a blob
-- command with options that can be read: that one has opened its bucket by then, and done nothing
-- else. What a cursor has on record for what was asked came before any call in all cases.
theorem refused_effect (scope : Scope) (clauses : List Clause) (params : Params) (client : Client) :
    (∀ e, (run scope clauses params client).1 = .error e → e.isFault = true →
      match blobRequest scope clauses with
      | none => Untouched client (run scope clauses params client).2
      | some r => Untouched (client.withBucket r.bucket) (run scope clauses params client).2) ∧
    ∀ e, (Cursor.ofQuery scope clauses client).1.error = some e → e.isFault = true →
      Untouched client (Cursor.ofQuery scope clauses client).2 :=
  ⟨fun _ h hfault => run_of_fault h hfault, fun _ h hfault => ofQuery_of_fault h hfault⟩

-- A file to be written, and nothing to read it from.
def writeWithoutSource : List Clause :=
  [.table "files", .command ⟨.blobWrite, .document [("id", .string "a")]⟩]

-- Distinct values of no field, and a sum of none.
def distinctOfNothing : List Clause := [.table "staff", .command ⟨.distinct, .string " "⟩]

def sumOfNothing : List Clause := [.table "staff", .aggregate [.ofField .sum ""]]

theorem refused_effect_staff :
    (∃ e, (run { config := {} } distinctOfNothing {} staff).1 = .error e ∧ e.isFault = true ∧
      Untouched staff (run { config := {} } distinctOfNothing {} staff).2) ∧
    (∃ e, (Cursor.ofQuery { config := {} } sumOfNothing staff).1.error = some e ∧ e.isFault = true ∧
      Untouched staff (Cursor.ofQuery { config := {} } sumOfNothing staff).2) ∧
    ∃ e, (run { config := {} } writeWithoutSource {} staff).1 = .error e ∧ e.isFault = true ∧
      Untouched (staff.withBucket ⟨"files", 1024⟩) (run { config := {} } writeWithoutSource {} staff).2 := by
  have hdistinct := refused_effect { config := {} } distinctOfNothing {} staff
  have hsum := refused_effect { config := {} } sumOfNothing {} staff
  have hwrite := refused_effect { config := {} } writeWithoutSource {} staff
  refine ⟨⟨_, rfl, rfl, ?_⟩, ⟨_, rfl, rfl, ?_⟩, ⟨_, rfl, rfl, ?_⟩⟩
  · exact hdistinct.1 _ rfl rfl
  · exact hsum.2 _ rfl rfl
  · exact hwrite.1 _ rfl rfl

-- Not every query that is refused for what it asks leaves the store uncalled.
theorem refused_after_call :
    ¬ ∀ (scope : Scope) (clauses : List Clause) (params : Params) (client : Client) (e : DbError),
        (run scope clauses params client).1 = .error e → e.isFault = true →
          Untouched client (run scope clauses params client).2 := by
  intro h
  have huntouched := h { config := {} } writeWithoutSource {} staff (.precondition .blobSource) rfl rfl
  have hnoted : (run { config := {} } writeWithoutSource {} staff).2.noted.length = 0 := by
    rw [huntouched.1]
    rfl
  cases hnoted

end Execute

end DocStore
