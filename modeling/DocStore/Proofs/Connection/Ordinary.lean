import DocStore.Connection
import DocStore.Proofs.Execute.Guard
import DocStore.Proofs.Store.Session

namespace DocStore

namespace Call

-- Whether the call commits or aborts the session.
def ends (id : SessionId) : Call → Bool
  | commitTransaction other => other == id
  | abortTransaction other => other == id
  | _ => false

-- Whether the call neither starts nor ends a session.
def isOrdinary : Call → Bool
  | startSession => false
  | commitTransaction _ => false
  | abortTransaction _ => false
  | _ => true

theorem ends_of_isOrdinary {c : Call} (h : c.isOrdinary = true) (id : SessionId) : c.ends id = false := by
  cases c <;> first | rfl | cases h

end Call

namespace Store

theorem sessionsStarted_le_perform (s : Store) (session : Option SessionId) (c : Call) :
    s.sessionsStarted ≤ (s.perform session c).2.sessionsStarted :=
  sessionsStarted_le_next s { session, call := c, serial := s.identifiers, failing := s.failing }

theorem sessionsStarted_upload (s : Store) (bucket : Bucket) (id : Option Value) (filename : String)
    (metadata : Document) (source : ByteSource) :
    (s.upload bucket id filename metadata source).2.sessionsStarted = s.sessionsStarted := by
  unfold upload
  split
  · rfl
  · dsimp only
    split <;> rfl

theorem sessionsStarted_deleteFile (s : Store) (bucket : String) (id : Value) :
    (s.deleteFile bucket id).2.sessionsStarted = s.sessionsStarted := by
  unfold deleteFile
  dsimp only
  split <;> rfl

theorem sessionsStarted_copy (download : Download) (sink : ByteSink) (s : Store) :
    (Blob.copy download sink s).2.sessionsStarted = s.sessionsStarted := by
  simp only [Blob.copy, Download.close]
  split <;> rfl

end Store

-- Whether the client has noted these calls since, and its store has given no
-- number to a session again.
structure Client.Extends (client before : Client) (more : List NotedCall) : Prop where
  noted : client.noted = before.noted ++ more
  started : before.store.sessionsStarted ≤ client.store.sessionsStarted

-- Whether the client has noted no call since that starts or ends a session.
def Client.Continues (client before : Client) : Prop :=
  ∃ more, client.Extends before more ∧ ∀ c ∈ more, c.call.isOrdinary = true

namespace Client

-- What was noted stays where it is.
theorem Extends.noted_at {client before : Client} {more : List NotedCall} (he : client.Extends before more)
    {n : Nat} {c : NotedCall} (hn : before.noted[n]? = some c) :
    client.noted[n]? = some c ∧ client.noted.take n = before.noted.take n ∧
      client.noted.drop n = before.noted.drop n ++ more := by
  have hlt : n < before.noted.length := (List.getElem?_eq_some_iff.mp hn).1
  rw [he.noted, List.getElem?_append_left hlt, List.take_append_of_le_length (Nat.le_of_lt hlt),
    List.drop_append_of_le_length (Nat.le_of_lt hlt)]
  exact ⟨hn, rfl, rfl⟩

theorem Continues.of_noted {client before : Client} (hnoted : client.noted = before.noted)
    (hstarted : before.store.sessionsStarted ≤ client.store.sessionsStarted) : client.Continues before :=
  ⟨[], ⟨by rw [hnoted, List.append_nil], hstarted⟩, by simp⟩

theorem Continues.refl (client : Client) : client.Continues client := .of_noted rfl (Nat.le_refl _)

theorem Continues.trans {a b c : Client} (hab : a.Continues b) (hbc : b.Continues c) : a.Continues c := by
  obtain ⟨later, ⟨hlater, hstarted⟩, hl⟩ := hab
  obtain ⟨more, ⟨hmore, hstarted'⟩, hm⟩ := hbc
  refine ⟨more ++ later, ⟨by rw [hlater, hmore, List.append_assoc], Nat.le_trans hstarted' hstarted⟩, ?_⟩
  exact fun c hc => (List.mem_append.mp hc).elim (hm c) (hl c)

theorem Continues.emit {a b : Client} (h : a.Continues b) (event : TraceEvent) :
    (a.emit event).Continues b := by
  obtain ⟨more, ⟨hnoted, hstarted⟩, hordinary⟩ := h
  exact ⟨more, ⟨hnoted, hstarted⟩, hordinary⟩

theorem extends_issue (client : Client) (session : Option SessionId) (activity : String) (c : Call) :
    (issue session activity c client).2.Extends client [⟨c, c.isBound session⟩] := by
  have hstarted := client.store.sessionsStarted_le_perform session c
  refine ⟨@Scope.issue_noted ⟨{}, session⟩ activity c client, ?_⟩
  simp only [issue]
  split
  · next h => rwa [show client.store.perform session c = _ from h] at hstarted
  · next h => rwa [show client.store.perform session c = _ from h] at hstarted

end Client

namespace ClientM

-- Whether the action starts and ends no session, however it goes.
def Ordinary {α : Type} (x : ClientM α) : Prop := ∀ client, (x client).2.Continues client

variable {α β : Type}

theorem ordinary_pure (a : α) : Ordinary (pure a : ClientM α) := Client.Continues.refl

theorem ordinary_throw (e : DbError) : Ordinary (throw e : ClientM α) := Client.Continues.refl

theorem Ordinary.bind {x : ClientM α} {f : α → ClientM β} (hx : Ordinary x) (hf : ∀ a, Ordinary (f a)) :
    Ordinary (x >>= f) := by
  intro client
  have hfirst := hx client
  cases h : x client with
  | mk r after =>
      rw [h] at hfirst
      cases r with
      | ok a =>
          rw [bind_of_ok f h]
          exact (hf a after).trans hfirst
      | error e =>
          rw [bind_of_error f h]
          exact hfirst

theorem ordinary_liftM_bind {x : Except DbError α} {f : α → ClientM β} (hf : ∀ a, Ordinary (f a)) :
    Ordinary (liftM x >>= f) := by
  cases x with
  | ok a => exact hf a
  | error e => exact ordinary_throw e

theorem ordinary_issue (session : Option SessionId) (activity : String) {c : Call} (hc : c.isOrdinary = true) :
    Ordinary (Client.issue session activity c) := fun client =>
  ⟨_, client.extends_issue session activity c, by simpa using hc⟩

-- A call whose answer is made a report.
theorem ordinary_report (session : Option SessionId) (activity : String) {c : Call}
    (hc : c.isOrdinary = true) (report : c.Answer → α) :
    Ordinary (Client.issue session activity c >>= fun answer => pure (report answer)) :=
  (ordinary_issue session activity hc).bind fun answer => ordinary_pure (report answer)

theorem ordinary_onStore (activity : String) {f : Store → Except StoreError α × Store}
    (hf : ∀ s, (f s).2.sessionsStarted = s.sessionsStarted) : Ordinary (Client.onStore activity f) := by
  intro client
  have hstarted := Nat.le_of_eq (hf client.store).symm
  simp only [Client.onStore]
  split
  · next h => exact .of_noted rfl (by rwa [h] at hstarted)
  · next h => exact .of_noted rfl (by rwa [h] at hstarted)

end ClientM

open ClientM

variable {scope : Scope} {g : GroupedQuery} {selector : Document} {params : Params}

namespace Blob

variable {bucket : Bucket} {o : BlobOptions}

theorem ordinary_forget (bucket : Bucket) (id : Option Value) : Ordinary (forget bucket id) := by
  intro client
  cases id with
  | none => exact Client.Continues.refl client
  | some id => exact .of_noted rfl (Nat.le_of_eq (client.store.sessionsStarted_deleteFile _ _).symm)

theorem ordinary_write (source : Option ByteSource) : Ordinary (write bucket o source) := by
  cases source with
  | none => exact ordinary_throw _
  | some source =>
      exact (ordinary_forget bucket o.id).bind fun _ => ordinary_onStore _ fun s =>
        s.sessionsStarted_upload _ _ _ _ _

theorem ordinary_read (output : Option ByteSink) : Ordinary (read bucket o output) := by
  cases output with
  | none => exact ordinary_throw _
  | some sink =>
      have hread : ∀ label, Ordinary (do
          let download ← Client.onStore ("unable to open blob " ++ label) fun s => (openFor s bucket o, s)
          Client.onStore ("unable to read blob " ++ label) (copy download sink)) := fun label =>
        (ordinary_onStore _ fun _ => rfl).bind fun download =>
          ordinary_onStore _ fun s => s.sessionsStarted_copy download sink
      simp only [read]
      split
      · exact ordinary_throw _
      · exact hread _

theorem ordinary_remove : Ordinary (remove bucket o) :=
  ordinary_liftM_bind fun _ => ordinary_onStore _ fun s => s.sessionsStarted_deleteFile _ _

theorem ordinary_truncate (bucket : Bucket) : Ordinary (truncate bucket) :=
  ordinary_onStore _ fun _ => rfl

end Blob

namespace Execute

theorem ordinary_insert : Ordinary (insert scope g params) :=
  ordinary_liftM_bind fun _ => ordinary_report _ _ rfl _

theorem ordinary_update : Ordinary (update scope g selector params) := by
  simp only [update]
  split
  · exact ordinary_throw _
  · refine ordinary_liftM_bind fun data => ?_
    split
    · exact ordinary_report _ _ rfl _
    · split
      · exact ordinary_throw _
      · exact ordinary_report _ _ rfl _

theorem ordinary_delete : Ordinary (delete scope g selector) := by
  simp only [delete]
  split
  · exact ordinary_throw _
  · exact ordinary_report _ _ rfl _

theorem ordinary_save : Ordinary (save scope g params) := by
  refine ordinary_liftM_bind fun _ => ordinary_liftM_bind fun _ => ?_
  cases scope.config.saveMode with
  | replace => exact ordinary_report _ _ rfl _
  | merge => exact ordinary_report _ _ rfl _

theorem ordinary_blobCommand (c : Command) : Ordinary (blobCommand scope g c params) := by
  refine ordinary_liftM_bind fun options => (ordinary_issue _ _ rfl).bind fun bucket => ?_
  cases c.name with
  | blobWrite => exact (Blob.ordinary_write _).bind fun _ => ordinary_pure _
  | blobRead => exact (Blob.ordinary_read _).bind fun _ => ordinary_pure _
  | blobRemove => exact Blob.ordinary_remove.bind fun _ => ordinary_pure _
  | blobTruncate => exact (Blob.ordinary_truncate _).bind fun _ => ordinary_pure _
  | _ => exact ordinary_throw _

theorem ordinary_command (c : Command) : Ordinary (command scope g c selector params) := by
  unfold command
  split
  · exact ordinary_blobCommand c
  · split
    · exact ordinary_liftM_bind fun _ => ordinary_report _ _ rfl _
    · split
      · exact ordinary_report _ _ rfl _
      · exact ordinary_throw _
    · exact (ordinary_report _ _ rfl _).bind fun _ => ordinary_pure _
    · exact ordinary_throw _

theorem ordinary_perform (kind : CommandKind) : Ordinary (perform scope g selector params kind) := by
  cases kind with
  | insert => exact ordinary_insert
  | update => exact ordinary_update
  | delete => exact ordinary_delete
  | save => exact ordinary_save
  | command =>
      rw [perform]
      split
      · exact ordinary_command _
      · exact ordinary_throw _

theorem ordinary_run (scope : Scope) (clauses : List Clause) (params : Params) :
    Ordinary (run scope clauses params) := by
  intro client
  cases hprepare : prepare scope clauses with
  | error e =>
      simp only [run, hprepare]
      exact Client.Continues.refl client
  | ok prepared =>
      obtain ⟨g, selector⟩ := prepared
      cases hkind : g.kind with
      | none =>
          simp only [run, hprepare, hkind]
          exact Client.Continues.refl client
      | some kind =>
          obtain ⟨event, hrun⟩ := run_of_kind params client hprepare hkind
          rw [hrun]
          exact (ordinary_perform kind client).emit event

end Execute

namespace Cursor

theorem ordinary_count (c : Cursor) : Ordinary c.count := by
  unfold count
  split
  · exact ordinary_pure _
  · exact ordinary_issue _ _ rfl

theorem ordinary_openPipeline (payload : Value) : Ordinary (openPipeline scope g payload selector) :=
  ordinary_liftM_bind fun _ => ordinary_report _ _ rfl _

theorem ordinary_openCommand (c : Command) : Ordinary (openCommand scope g c selector) := by
  unfold openCommand
  split
  · exact ordinary_openPipeline _
  · exact ordinary_openPipeline _
  · split
    · exact ordinary_report _ _ rfl _
    · exact ordinary_throw _
  · exact ordinary_throw _

theorem ordinary_openAs (scope : Scope) (g : GroupedQuery) (selector : Document) :
    Ordinary (openAs scope g selector).2 := by
  unfold openAs
  split
  · exact ordinary_liftM_bind fun _ => ordinary_report _ _ rfl _
  · exact ordinary_openCommand _
  · exact ordinary_liftM_bind fun _ => ordinary_report _ _ rfl _

theorem continues_ofQuery (scope : Scope) (clauses : List Clause) (client : Client) :
    (ofQuery scope clauses client).2.Continues client := by
  cases hprepare : prepare scope clauses with
  | error e =>
      simp only [ofQuery, hprepare]
      exact Client.Continues.refl client
  | ok prepared =>
      obtain ⟨g, selector⟩ := prepared
      have hopen := ordinary_openAs scope g selector client
      simp only [ofQuery, hprepare]
      split
      · next c after h => exact (h ▸ hopen).emit _
      · next e after h => exact (h ▸ hopen).emit _

end Cursor

end DocStore
