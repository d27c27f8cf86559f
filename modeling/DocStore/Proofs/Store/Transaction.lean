import DocStore.Proofs.Store.Isolation

namespace DocStore

namespace Store

-- The calls made one after the other in one session or in none: the answer to
-- each, and the store that is left.
def performAll (s : Store) (session : Option SessionId) :
    List Call → List (Σ c : Call, Except StoreError c.Answer) × Store
  | [] => ([], s)
  | c :: rest =>
    let result := s.perform session c
    let after := result.2.performAll session rest
    (⟨c, result.1⟩ :: after.1, after.2)

-- Whether a session of one store has as a snapshot what is committed in another
-- one, and the next call meets both in the same way.
structure Shadows (id : SessionId) (events : List (String × Document)) (s t : Store) : Prop where
  session : s.session? id = some ⟨t.committed, events⟩
  identifiers : s.identifiers = t.identifiers
  failing : s.failing = t.failing

section

variable {s t : Store} {x y : Option SessionId} {c : Call} {id : SessionId}
  {events : List (String × Document)}

theorem runCursorCommand_eq_of_view (hv : s.view x = t.view y) (command : Document) :
    s.runCursorCommand x command = t.runCursorCommand y command := by
  unfold runCursorCommand
  split
  · rfl
  · split <;> simp only [findIn, aggregateIn, hv]

theorem runCommand_eq_of_view (hv : s.view x = t.view y) (command : Document) :
    (s.runCommand x command).1 = (t.runCommand y command).1 := by
  unfold runCommand
  split
  · rfl
  · split
    · rfl
    · simp only [countIn, hv]
    · simp only [distinctIn, hv]
    · split <;> rfl
    · rw [runCursorCommand_eq_of_view hv]

-- A call that writes nothing answers by what it sees.
theorem answer_eq_of_view (hc : c.takesSession = true) (hw : c.write? = none) (hv : s.view x = t.view y) :
    (s.answer x c).1 = (t.answer y c).1 := by
  cases c with
  | find | aggregate | distinct | countDocuments =>
      simp only [answer, findIn, aggregateIn, distinctIn, countIn, hv]
  | runCommand command => exact runCommand_eq_of_view hv command
  | runCommandCursor command => simp only [answer, runCursorCommand_eq_of_view hv]
  | insertOne | updateMany | updateOne | replaceOne | deleteMany => cases hw
  | _ => cases hc

theorem answer_of_read (hc : c.takesSession = true) (hw : c.write? = none) (hd : c.drop? = none) :
    (s.answer x c).2 = s := by
  rcases answer_cases c with ⟨_, _, hwrite⟩ | ⟨_, hdrop⟩ | rfl | ⟨_, rfl⟩ | ⟨_, rfl⟩ | ⟨_, rfl⟩ |
    ⟨_, _, hsame⟩
  · simp [hw] at hwrite
  · simp [hd] at hdrop
  · cases hc
  · cases hc
  · cases hc
  · cases hc
  · exact hsame s x

theorem Shadows.write {α : Type} (h : Shadows id events s t) (name : String) (f : List Document → Write α) :
    (s.write (some id) name f).1 = (t.write none name f).1 ∧
      ∃ more, Shadows id (events ++ more) (s.write (some id) name f).2 (t.write none name f).2 ∧
        (t.write none name f).2.subscriptions = (t.publish more).subscriptions := by
  rw [write_some h.session, write_none]
  refine ⟨rfl, (f (t.documents name)).announced name, ⟨?_, ?_, ?_⟩, ?_⟩
  · rw [session?_setSession, if_pos rfl, h.session, publish_committed]
    rfl
  · rw [publish_identifiers]
    exact h.identifiers
  · rw [publish_failing]
    exact h.failing
  · simp

-- One call keeps the session in step.
theorem Shadows.perform (h : Shadows id events s t) (hc : c.takesSession = true) (hd : c.drop? = none) :
    (s.perform (some id) c).1 = (t.perform none c).1 ∧
      ∃ more, Shadows id (events ++ more) (s.perform (some id) c).2 (t.perform none c).2 ∧
        (t.perform none c).2.subscriptions = (t.publish more).subscriptions := by
  by_cases hf : s.failing = some c.name
  · have hf' : t.failing = some c.name := h.failing ▸ hf
    rw [perform_of_failing hf, perform_of_failing hf']
    refine ⟨rfl, [], ?_, rfl⟩
    rw [List.append_nil]
    exact ⟨h.session, h.identifiers, rfl⟩
  · have hf' : t.failing ≠ some c.name := h.failing ▸ hf
    -- A write draws its identifier from the same supply on both sides; what
    -- writes nothing sees the same collections.
    cases hw : c.write? with
    | some write =>
        obtain ⟨name, f⟩ := write
        have hfresh : s.fresh = t.fresh := congrArg ObjectId.generated h.identifiers
        have hcounted : Shadows id events (s.counted (s.identifiers + c.identifiersGiven))
            (t.counted (t.identifiers + c.identifiersGiven)) :=
          ⟨h.session, congrArg (· + c.identifiersGiven) h.identifiers, h.failing⟩
        rw [perform_of_write hw hf, perform_of_write hw hf', hfresh]
        obtain ⟨hanswer, more, hshadows, hsubscriptions⟩ := hcounted.write name (f t.fresh)
        exact ⟨hanswer, more, hshadows, by simpa [counted] using hsubscriptions⟩
    | none =>
        have hview : s.view (some id) = t.view none := by simp [view, h.session]
        rw [perform_of_ready hf, perform_of_ready hf', answer_of_read hc hw hd, answer_of_read hc hw hd]
        refine ⟨answer_eq_of_view hc hw hview, [], ?_, rfl⟩
        rw [List.append_nil]
        exact ⟨h.session, h.identifiers, h.failing⟩

-- So do any number of calls, which announce nothing on the side of the session.
theorem Shadows.performAll (h : Shadows id events s t) {calls : List Call}
    (hcalls : ∀ c ∈ calls, c.takesSession = true ∧ c.drop? = none) :
    (s.performAll (some id) calls).1 = (t.performAll none calls).1 ∧
      (s.performAll (some id) calls).2.subscriptions = s.subscriptions ∧
      ∃ more, Shadows id (events ++ more) (s.performAll (some id) calls).2 (t.performAll none calls).2 ∧
        (t.performAll none calls).2.subscriptions = (t.publish more).subscriptions := by
  -- By induction on the calls; the events held back grow from call to call.
  induction calls generalizing s t events with
  | nil => exact ⟨rfl, rfl, [], by simpa [Store.performAll] using h, rfl⟩
  | cons c rest ih =>
      obtain ⟨⟨hc, hd⟩, hrest⟩ := List.forall_mem_cons.mp hcalls
      obtain ⟨hanswer, more, hstep, hannounced⟩ := h.perform hc hd
      obtain ⟨hanswers, hquiet, others, hshadows, hothers⟩ := ih hstep hrest
      refine ⟨?_, ?_, more ++ others, ?_, ?_⟩
      · simp only [Store.performAll, hanswer, hanswers]
      · exact hquiet.trans (subscriptions_perform_bound hc id)
      · rw [← List.append_assoc]
        exact hshadows
      · rw [publish_append]
        simp only [Store.performAll, hothers, publish_subscriptions, hannounced]

-- A call that was asked to fail stays so until it comes.
theorem failing_performAll (s : Store) (session : Option SessionId) (calls : List Call) :
    (s.performAll session calls).2.failing = s.failing ∨ (s.performAll session calls).2.failing = none := by
  induction calls generalizing s with
  | nil => exact Or.inl rfl
  | cons c rest ih =>
      have hrest := ih (s.perform session c).2
      by_cases hf : s.failing = some c.name
      · rw [perform_of_failing hf] at hrest
        simpa [Store.performAll, perform_of_failing hf] using Or.inr hrest
      · rw [perform_of_ready hf, failing_answer] at hrest
        simpa [Store.performAll, perform_of_ready hf] using hrest

end

-- A session that has just been started shadows the store it was started on.
theorem perform_startSession {s : Store} (hn : s.Numbered) (hready : s.failing ≠ some "start_session") :
    ∃ id started, s.perform none .startSession = (.ok id, started) ∧ Shadows id [] started s ∧
      started.subscriptions = s.subscriptions := by
  let counted : Store := { s with operations := s.operations + 1 }
  have hnone : counted.session? ⟨s.sessionsStarted⟩ = none := hn _ (Nat.le_refl _)
  have hstarted := session?_startSession counted ⟨s.sessionsStarted⟩
  rw [hnone, Option.none_or] at hstarted
  exact ⟨_, counted.startSession.2, perform_of_ready hready,
    ⟨hstarted.trans (if_pos rfl), rfl, rfl⟩, rfl⟩

theorem perform_commitTransaction {s : Store} {id : SessionId} {own : Session}
    (hready : s.failing ≠ some "commit_transaction") (hs : s.session? id = some own) :
    ∃ done, s.perform none (.commitTransaction id) = (.ok (), done) ∧ done.committed = own.data ∧
      done.subscriptions = (s.publish own.events).subscriptions := by
  let counted : Store := { s with operations := s.operations + 1 }
  have hown : counted.session? id = some own := hs
  refine ⟨{ counted.dropSession id with committed := own.data }.publish own.events, ?_, ?_, ?_⟩
  · rw [perform_of_ready hready]
    simp only [answer, commit]
    rw [hown]
  · rw [publish_committed]
  · simp [counted, dropSession]

-- Starting a session, making calls in it and committing it gives the answers, the
-- committed collections and the events that the same calls give in no session.
theorem transaction_eq_direct {s : Store} (hn : s.Numbered) (hstart : s.failing ≠ some "start_session")
    (hcommit : s.failing ≠ some "commit_transaction") {calls : List Call}
    (hcalls : ∀ c ∈ calls, c.takesSession = true ∧ c.drop? = none) :
    ∃ id started done,
      s.perform none .startSession = (.ok id, started) ∧
      (started.performAll (some id) calls).1 = (s.performAll none calls).1 ∧
      (started.performAll (some id) calls).2.perform none (.commitTransaction id) = (.ok (), done) ∧
      done.committed = (s.performAll none calls).2.committed ∧
      done.subscriptions = (s.performAll none calls).2.subscriptions := by
  obtain ⟨id, started, hbegun, hshadows, hfresh⟩ := perform_startSession hn hstart
  obtain ⟨hanswers, hquiet, events, hlast, hevents⟩ := hshadows.performAll hcalls
  have hready : (started.performAll (some id) calls).2.failing ≠ some "commit_transaction" := by
    intro hf
    rcases failing_performAll started (some id) calls with hsame | hnone
    · exact hcommit (hshadows.failing.symm.trans (hsame.symm.trans hf))
    · exact absurd (hnone.symm.trans hf) (by simp)
  obtain ⟨done, hdone, hcommitted, hsubscriptions⟩ := perform_commitTransaction hready hlast.session
  refine ⟨id, started, done, hbegun, hanswers, hdone, hcommitted, ?_⟩
  rw [hsubscriptions, hevents, publish_subscriptions, publish_subscriptions, hquiet, hfresh]
  rfl

-- An update that fails at the second document, with the first one changed, and a
-- document that gets its identifier from the store.
def failingCalls : List Call :=
  [
    .updateMany "c" [] [("$set", .document [("v", .int32 1), ("_id", .int32 1)])] false,
    .insertOne "c" [("v", .int32 2)],
    .countDocuments "c" []
  ]

theorem transaction_eq_direct_failingCalls :
    let s := empty.after [(none, .insertOne "c" [("_id", .int32 1)]),
      (none, .insertOne "c" [("_id", .int32 2)]), (none, .watch "c")]
    s.Numbered ∧ s.failing ≠ some "start_session" ∧ s.failing ≠ some "commit_transaction" ∧
      (∀ c ∈ failingCalls, c.takesSession = true ∧ c.drop? = none) ∧
      ∃ id started done,
        s.perform none .startSession = (.ok id, started) ∧
        (started.performAll (some id) failingCalls).1 = (s.performAll none failingCalls).1 ∧
        (started.performAll (some id) failingCalls).2.perform none (.commitTransaction id) =
          (.ok (), done) ∧
        done.committed = (s.performAll none failingCalls).2.committed ∧
        done.subscriptions = (s.performAll none failingCalls).2.subscriptions := by
  intro s
  have hn : s.Numbered := fun _ _ => rfl
  have hstart : s.failing ≠ some "start_session" := fun hf => by cases hf
  have hcommit : s.failing ≠ some "commit_transaction" := fun hf => by cases hf
  have hcalls : ∀ c ∈ failingCalls, c.takesSession = true ∧ c.drop? = none := by
    simp [failingCalls, Call.takesSession, Call.drop?]
  exact ⟨hn, hstart, hcommit, hcalls, transaction_eq_direct hn hstart hcommit hcalls⟩

end Store

end DocStore
