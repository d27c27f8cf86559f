import DocStore.Proofs.OrderedMap
import DocStore.Proofs.Store.Atomicity
import DocStore.Proofs.Store.Session

namespace DocStore

namespace Call

theorem isWrite_eq (c : Call) : c.isWrite = c.write?.isSome := by
  cases c <;> rfl

theorem exists_write {c : Call} (h : c.isWrite = true) : ∃ name f, c.write? = some (name, f) := by
  rw [isWrite_eq] at h
  obtain ⟨⟨name, f⟩, hw⟩ := Option.isSome_iff_exists.mp h
  exact ⟨name, f, hw⟩

end Call

namespace Store

-- Whether two stores agree on what is committed, on the subscriptions and on
-- every session but one.
structure AgreeApart (id : SessionId) (s t : Store) : Prop where
  committed : s.committed = t.committed
  subscriptions : s.subscriptions = t.subscriptions
  sessionsStarted : s.sessionsStarted = t.sessionsStarted
  sessions : ∀ other, other ≠ id → s.session? other = t.session? other

-- Whether no event went out. Subscriptions that were there are as they were, and
-- nothing is pending with new ones.
def Quiet (s t : Store) : Prop :=
  ∃ opened, t.subscriptions = s.subscriptions ++ opened ∧ ∀ sub ∈ opened, sub.pending = []

-- Whether some step ends the session without committing it.
def Aborts (s : Store) (id : SessionId) (steps : List Step) : Prop :=
  ∃ before step after, steps = before ++ step :: after ∧ step.call = .abortTransaction id ∧
    (s.run before).accepts step = true

-- Whether no step commits the session.
def NeverCommits (id : SessionId) : Store → List Step → Prop
  | _, [] => True
  | s, step :: rest =>
    (step.call = .commitTransaction id → s.accepts step = false) ∧ NeverCommits id (s.next step) rest

section

variable {s t : Store} {id : SessionId} {session : Option SessionId} {c : Call}

theorem AgreeApart.refl (id : SessionId) (s : Store) : AgreeApart id s s :=
  ⟨rfl, rfl, rfl, fun _ _ => rfl⟩

theorem AgreeApart.trans {u : Store} (h : AgreeApart id s t) (h' : AgreeApart id t u) : AgreeApart id s u :=
  ⟨h.committed.trans h'.committed, h.subscriptions.trans h'.subscriptions,
    h.sessionsStarted.trans h'.sessionsStarted,
    fun other ho => (h.sessions other ho).trans (h'.sessions other ho)⟩

theorem AgreeApart.symm (h : AgreeApart id s t) : AgreeApart id t s :=
  ⟨h.committed.symm, h.subscriptions.symm, h.sessionsStarted.symm,
    fun other ho => (h.sessions other ho).symm⟩

theorem AgreeApart.withCommitted (h : AgreeApart id s t) (data : Collections) :
    AgreeApart id { s with committed := data } { t with committed := data } :=
  ⟨rfl, h.subscriptions, h.sessionsStarted, h.sessions⟩

theorem AgreeApart.publish (h : AgreeApart id s t) (events : List (String × Document)) :
    AgreeApart id (s.publish events) (t.publish events) := by
  refine ⟨?_, ?_, ?_, fun other ho => ?_⟩
  · simpa using h.committed
  · simp [h.subscriptions]
  · simpa using h.sessionsStarted
  · simpa using h.sessions other ho

theorem write_bound {α : Type} (s : Store) (id : SessionId) (name : String) (f : List Document → Write α) :
    (s.write (some id) name f).2.committed = s.committed ∧
      (s.write (some id) name f).2.subscriptions = s.subscriptions := by
  cases hs : s.session? id with
  | none =>
      rw [write_of_absent hs]
      exact ⟨rfl, rfl⟩
  | some own =>
      rw [write_some hs]
      exact ⟨rfl, rfl⟩

-- What is committed stays as it is but for drops, writes in no session and commits,
-- and the subscriptions do but for a new one.
theorem answer_keeps (hd : c.drop? = none) (hwrite : ¬ (c.isWrite = true ∧ session = none))
    (hcommit : ∀ ended, c = .commitTransaction ended → s.session? ended = none) :
    (s.answer session c).2.committed = s.committed ∧
      ((s.answer session c).2.subscriptions = s.subscriptions ∨ ∃ name, c = .watch name) := by
  rcases answer_cases c with ⟨name, f, hw⟩ | ⟨name, hdrop⟩ | rfl | ⟨ended, rfl⟩ | ⟨ended, rfl⟩ |
    ⟨name, rfl⟩ | ⟨_, _, hsame⟩
  · cases session with
    | none => exact absurd ⟨by simp [Call.isWrite_eq, hw], rfl⟩ hwrite
    | some id =>
        let counted : Store := { s with identifiers := s.identifiers + c.identifiersGiven }
        obtain ⟨hcommitted, hsubscriptions⟩ := write_bound counted id name (f s.fresh)
        rw [answer_of_write hw]
        exact ⟨hcommitted, Or.inl hsubscriptions⟩
  · rw [hd] at hdrop
    cases hdrop
  · exact ⟨rfl, Or.inl rfl⟩
  · simp [answer, commit, hcommit ended rfl]
  · simp only [answer, abort]
    split <;> exact ⟨rfl, Or.inl rfl⟩
  · exact ⟨rfl, Or.inr ⟨name, rfl⟩⟩
  · rw [hsame]
    exact ⟨rfl, Or.inl rfl⟩

-- A call that has to do with a session, and neither drops nor commits, leaves
-- what is committed as it is and announces nothing.
theorem answer_of_handle (h : c.handle? session = some id) (hd : c.drop? = none)
    (hcommit : c = .commitTransaction id → s.session? id = none) :
    (s.answer session c).2.committed = s.committed ∧
      (s.answer session c).2.subscriptions = s.subscriptions := by
  have hwrite : ¬ (c.isWrite = true ∧ session = none) := by
    rintro ⟨hwrite, rfl⟩
    obtain ⟨name, f, hw⟩ := Call.exists_write hwrite
    rw [Call.handle?_of_takesSession (Call.takesSession_of_write hw)] at h
    cases h
  have hended : ∀ ended, c = .commitTransaction ended → s.session? ended = none := by
    rintro ended rfl
    cases h
    exact hcommit rfl
  obtain ⟨hcommitted, hsubscriptions | ⟨name, rfl⟩⟩ := answer_keeps hd hwrite hended
  · exact ⟨hcommitted, hsubscriptions⟩
  · cases h

-- Such a call is not felt outside its session.
theorem agreeApart_answer (h : c.handle? session = some id) (hd : c.drop? = none)
    (hcommit : c = .commitTransaction id → s.session? id = none) :
    AgreeApart id s (s.answer session c).2 := by
  have hstart : c ≠ .startSession := by
    rintro rfl
    cases h
  obtain ⟨hcommitted, hsubscriptions⟩ := answer_of_handle h hd hcommit
  refine ⟨hcommitted.symm, hsubscriptions.symm, (sessionsStarted_answer hstart).symm, fun other ho => ?_⟩
  have hother : c.handle? session ≠ some other := by
    rw [h]
    exact fun he => ho (Option.some.inj he).symm
  exact (session?_answer_of_ne hother fun he => absurd he hstart).symm

theorem AgreeApart.write {α : Type} (h : AgreeApart id s t) (hsession : session ≠ some id) (name : String)
    (f : List Document → Write α) :
    AgreeApart id (s.write session name f).2 (t.write session name f).2 := by
  cases session with
  | none =>
      rw [write_none, write_none]
      simp only [documents, h.committed]
      exact (h.withCommitted _).publish _
  | some other =>
      have hne : other ≠ id := fun he => hsession (he ▸ rfl)
      have hsame := h.sessions other hne
      cases hs : s.session? other with
      | none =>
          rw [write_of_absent hs, write_of_absent (hsame ▸ hs)]
          exact h
      | some own =>
          rw [write_some hs, write_some (hsame ▸ hs)]
          refine ⟨h.committed, h.subscriptions, h.sessionsStarted, fun key hk => ?_⟩
          rw [session?_setSession, session?_setSession, hsame, h.sessions key hk]

theorem AgreeApart.dropSession (h : AgreeApart id s t) (ended : SessionId) :
    AgreeApart id (s.dropSession ended) (t.dropSession ended) := by
  refine ⟨h.committed, h.subscriptions, h.sessionsStarted, fun other ho => ?_⟩
  rw [session?_dropSession, session?_dropSession, h.sessions other ho]

-- What is not felt outside a session stays so: calls that have nothing to do with
-- the session make the same of both stores.
theorem AgreeApart.answer (h : AgreeApart id s t) (hserial : s.identifiers = t.identifiers)
    (hc : c.handle? session ≠ some id) : AgreeApart id (s.answer session c).2 (t.answer session c).2 := by
  rcases answer_cases c with ⟨name, f, hw⟩ | ⟨name, hd⟩ | rfl | ⟨ended, rfl⟩ | ⟨ended, rfl⟩ |
    ⟨name, rfl⟩ | ⟨_, _, hsame⟩
  · rw [Call.handle?_of_takesSession (Call.takesSession_of_write hw)] at hc
    have hfresh : s.fresh = t.fresh := congrArg ObjectId.generated hserial
    have hcounted : AgreeApart id { s with identifiers := s.identifiers + c.identifiersGiven }
        { t with identifiers := t.identifiers + c.identifiersGiven } :=
      ⟨h.committed, h.subscriptions, h.sessionsStarted, h.sessions⟩
    rw [answer_of_write hw, answer_of_write hw, hfresh]
    exact hcounted.write hc name _
  · rw [answer_of_drop hd, answer_of_drop hd]
    exact ⟨congrArg (OrderedMap.erase · name) h.committed, h.subscriptions, h.sessionsStarted, h.sessions⟩
  · refine ⟨h.committed, h.subscriptions, congrArg (· + 1) h.sessionsStarted, fun other ho => ?_⟩
    simp only [Store.answer]
    rw [session?_startSession, session?_startSession, h.sessions other ho, h.committed, h.sessionsStarted]
  · have hne : ended ≠ id := fun he => hc (he ▸ rfl)
    simp only [Store.answer, commit, h.sessions ended hne]
    split
    · exact h
    · exact ((h.dropSession ended).withCommitted _).publish _
  · have hne : ended ≠ id := fun he => hc (he ▸ rfl)
    simp only [Store.answer, abort, h.sessions ended hne]
    split
    · exact h
    · exact h.dropSession ended
  · exact ⟨h.committed, congrArg (· ++ [_]) h.subscriptions, h.sessionsStarted, h.sessions⟩
  · rw [hsame, hsame]
    exact h

end

section

variable {s t : Store} {id : SessionId} {step : Step} {steps : List Step}

theorem agreeApart_meeting (id : SessionId) (s : Store) (step : Step) : AgreeApart id s (s.meeting step) :=
  ⟨rfl, rfl, rfl, fun _ _ => rfl⟩

theorem agreeApart_next (h : step.handle? = some id) (hd : step.call.drop? = none)
    (hcommit : step.call = .commitTransaction id → s.accepts step = false) :
    AgreeApart id s (s.next step) := by
  by_cases hf : step.failing = some step.call.name
  · rw [next_of_failing hf]
    exact ⟨rfl, rfl, rfl, fun _ _ => rfl⟩
  · rw [next_of_ready hf]
    refine (agreeApart_meeting id s step).trans (agreeApart_answer h hd fun hcall => ?_)
    have hrefused := hcommit hcall
    obtain ⟨session, call, serial, failing⟩ := step
    subst hcall
    rw [accepts, play_of_ready hf] at hrefused
    cases hs : s.session? id with
    | none => exact hs
    | some own =>
        let step : Step := ⟨session, .commitTransaction id, serial, failing⟩
        have hown : (s.meeting step).session? id = some own := hs
        simp [answer, commit, step, hown, Except.isOk, Except.toBool] at hrefused

theorem AgreeApart.next (h : AgreeApart id s t) (hstep : step.handle? ≠ some id) :
    AgreeApart id (s.next step) (t.next step) := by
  have hmeeting : AgreeApart id (s.meeting step) (t.meeting step) :=
    ((agreeApart_meeting id s step).symm.trans h).trans (agreeApart_meeting id t step)
  by_cases hf : step.failing = some step.call.name
  · rw [next_of_failing hf, next_of_failing hf]
    exact ⟨hmeeting.committed, hmeeting.subscriptions, hmeeting.sessionsStarted, hmeeting.sessions⟩
  · rw [next_of_ready hf, next_of_ready hf]
    exact hmeeting.answer rfl hstep

-- Leaving out the steps of a session that is never committed is not felt outside it.
theorem AgreeApart.run (h : AgreeApart id s t)
    (hdrop : ∀ step ∈ steps, step.handle? = some id → step.call.drop? = none)
    (hcommit : NeverCommits id s steps) :
    AgreeApart id (s.run steps) (t.run (steps.filter fun step => step.handle? != some id)) := by
  induction steps generalizing s t with
  | nil => exact h
  | cons step rest ih =>
      obtain ⟨hd, hrest⟩ := List.forall_mem_cons.mp hdrop
      -- A step of the session moves the first store alone, every other step both.
      by_cases hstep : step.handle? = some id
      · have hown := agreeApart_next hstep (hd hstep) hcommit.1
        simpa [hstep] using ih (hown.symm.trans h) hrest hcommit.2
      · simpa [hstep] using ih (h.next hstep) hrest hcommit.2

theorem neverCommits_append (s : Store) (id : SessionId) (steps others : List Step) :
    NeverCommits id s (steps ++ others) ↔
      NeverCommits id s steps ∧ NeverCommits id (s.run steps) others := by
  induction steps generalizing s with
  | nil => simp [NeverCommits]
  | cons step rest ih => simp [NeverCommits, ih, and_assoc]

-- A session that is there at the end has not been committed on the way.
theorem neverCommits_of_isSome (hn : s.Numbered) (h : ((s.run steps).session? id).isSome = true) :
    NeverCommits id s steps := by
  induction steps generalizing s with
  | nil => trivial
  | cons step rest ih =>
      refine ⟨fun hcall => ?_, ih (hn.next step) h⟩
      by_contra haccepts
      have hended : (s.next step).Ended id :=
        ended_next hn (Bool.not_eq_false _ ▸ haccepts) (.inl hcall)
      have hgone := (hended.run rest).2
      rw [run_cons, hgone] at h
      cases h

theorem Ended.neverCommits (h : s.Ended id) (steps : List Step) : NeverCommits id s steps := by
  induction steps generalizing s with
  | nil => trivial
  | cons step rest ih =>
      refine ⟨fun hcall => ?_, ih (h.next step)⟩
      by_contra haccepts
      have hsome := isSome_of_accepts (Bool.not_eq_false _ ▸ haccepts) (.inl hcall)
      rw [h.2] at hsome
      cases hsome

theorem Aborts.neverCommits (hn : s.Numbered) (h : s.Aborts id steps) : NeverCommits id s steps := by
  obtain ⟨before, step, after, rfl, hcall, haccepts⟩ := h
  have hn' := hn.run before
  -- The session is there when it is aborted, and not any more from then on.
  rw [neverCommits_append]
  refine ⟨neverCommits_of_isSome hn (isSome_of_accepts haccepts (.inr hcall)), fun hcommit => ?_, ?_⟩
  · rw [hcall] at hcommit
    cases hcommit
  · exact (ended_next hn' haccepts (.inr hcall)).neverCommits after

end

-- Whether a call is let in and drops a collection that is there.
def Drops (s : Store) (c : Call) : Prop :=
  s.failing ≠ some c.name ∧ ∃ name, c.drop? = some name ∧ name ∈ s.committed.keys

section

variable {s t : Store} {session : Option SessionId} {c : Call}

theorem committed_of_drop {name : String} (hd : c.drop? = some name) (session : Option SessionId) :
    (s.perform session c).2.committed = s.committed ↔ ¬ s.Drops c := by
  by_cases hf : s.failing = some c.name
  · rw [perform_of_failing hf]
    exact iff_of_true rfl fun hdrops => hdrops.1 hf
  · rw [perform_of_ready hf, answer_of_drop hd]
    have herase := OrderedMap.erase_eq_self_iff s.committed name
    simpa [Drops, hf, hd, dropCollection] using herase

theorem subscriptions_of_drop {name : String} (hd : c.drop? = some name) (session : Option SessionId) :
    (s.perform session c).2.subscriptions = s.subscriptions := by
  by_cases hf : s.failing = some c.name
  · rw [perform_of_failing hf]
  · rw [perform_of_ready hf, answer_of_drop hd]
    rfl

theorem not_drops (hd : c.drop? = none) : ¬ s.Drops c := by
  rintro ⟨_, name, hname, _⟩
  rw [hd] at hname
  cases hname

theorem quiet_of_eq (h : t.subscriptions = s.subscriptions) : Quiet s t := ⟨[], by simp [h], by simp⟩

theorem quiet_answer (hd : c.drop? = none) (hwrite : ¬ (c.isWrite = true ∧ session = none))
    (hcommit : ∀ id, c ≠ .commitTransaction id) :
    Quiet s (s.answer session c).2 ∧ (s.answer session c).2.committed = s.committed := by
  have hended : ∀ id, c = .commitTransaction id → s.session? id = none := fun id he => absurd he (hcommit id)
  obtain ⟨hcommitted, hsubscriptions | ⟨name, rfl⟩⟩ := answer_keeps hd hwrite hended
  · exact ⟨quiet_of_eq hsubscriptions, hcommitted⟩
  · exact ⟨⟨[{ collection := name }], rfl, by simp⟩, hcommitted⟩

-- Calls other than writes made in no session and commits announce nothing, and
-- change what is committed only where they drop a collection.
theorem quiet_perform (hwrite : ¬ (c.isWrite = true ∧ session = none))
    (hcommit : ∀ id, c ≠ .commitTransaction id) :
    Quiet s (s.perform session c).2 ∧
      ((s.perform session c).2.committed = s.committed ↔ ¬ s.Drops c) := by
  cases hd : c.drop? with
  | some name => exact ⟨quiet_of_eq (subscriptions_of_drop hd session), committed_of_drop hd session⟩
  | none =>
      rw [iff_true_right (not_drops hd)]
      by_cases hf : s.failing = some c.name
      · rw [perform_of_failing hf]
        exact ⟨quiet_of_eq rfl, rfl⟩
      · rw [perform_of_ready hf]
        exact quiet_answer hd hwrite hcommit

theorem subscriptions_perform_bound (hc : c.takesSession = true) (id : SessionId) :
    (s.perform (some id) c).2.subscriptions = s.subscriptions := by
  cases hd : c.drop? with
  | some name => exact subscriptions_of_drop hd (some id)
  | none =>
      by_cases hf : s.failing = some c.name
      · rw [perform_of_failing hf]
      · rw [perform_of_ready hf]
        have hhandle := Call.handle?_of_takesSession hc (some id)
        refine (answer_of_handle hhandle hd fun he => ?_).2
        rw [he] at hc
        cases hc

end

-- Calls in a session change what is committed only by dropping a collection, and
-- announce nothing; other than that, what is committed changes with writes in no
-- session and with commits; and the calls of a session that is aborted, where
-- they drop nothing, leave what is there without them.
theorem sessions_isolated (s : Store) (id : SessionId) :
    (∀ c : Call, c.takesSession = true →
      (s.perform (some id) c).2.subscriptions = s.subscriptions ∧
        ((s.perform (some id) c).2.committed = s.committed ↔ ¬ s.Drops c)) ∧
    (∀ (session : Option SessionId) (c : Call),
      (c.isWrite = true ∧ session = none) ∨ (∃ ended, c = .commitTransaction ended) ∨
        (Quiet s (s.perform session c).2 ∧
          ((s.perform session c).2.committed = s.committed ↔ ¬ s.Drops c))) ∧
    ∀ steps : List Step, s.Numbered → s.Aborts id steps →
      (∀ step ∈ steps, step.handle? = some id → step.call.drop? = none) →
      (s.run steps).committed = (s.run (steps.filter fun step => step.handle? != some id)).committed ∧
        (s.run steps).subscriptions =
          (s.run (steps.filter fun step => step.handle? != some id)).subscriptions := by
  refine ⟨fun c hc => ?_, fun session c => ?_, fun steps hn haborts hdrop => ?_⟩
  · refine ⟨subscriptions_perform_bound hc id, (quiet_perform (by simp) fun ended he => ?_).2⟩
    rw [he] at hc
    cases hc
  · by_cases hwrite : c.isWrite = true ∧ session = none
    · exact Or.inl hwrite
    · by_cases hcommit : ∃ ended, c = .commitTransaction ended
      · exact Or.inr (Or.inl hcommit)
      · exact Or.inr (Or.inr (quiet_perform hwrite fun ended he => hcommit ⟨ended, he⟩))
  · have hagree := (AgreeApart.refl id s).run hdrop (haborts.neverCommits hn)
    exact ⟨hagree.committed, hagree.subscriptions⟩

-- A document goes into a collection in a session that is aborted, and another
-- one meanwhile in no session.
def abortedInsert : List Step :=
  [
    { call := .insertOne "c" [("_id", .int32 1)] },
    { call := .startSession },
    { session := some ⟨0⟩, call := .insertOne "c" [("_id", .int32 2)] },
    { call := .insertOne "c" [("_id", .int32 3)] },
    { call := .abortTransaction ⟨0⟩ }
  ]

theorem sessions_isolated_abortedInsert :
    ((empty.run (abortedInsert.take 2)).perform (some ⟨0⟩)
        (.insertOne "c" [("_id", .int32 2)])).2.committed = (empty.run (abortedInsert.take 2)).committed ∧
      Quiet (empty.run (abortedInsert.take 2)) ((empty.run (abortedInsert.take 2)).perform none
        (.abortTransaction ⟨0⟩)).2 ∧
      empty.Aborts ⟨0⟩ abortedInsert ∧
      (empty.run abortedInsert).committed =
        (empty.run (abortedInsert.filter fun step => step.handle? != some ⟨0⟩)).committed := by
  obtain ⟨hbound, hchanges, _⟩ := sessions_isolated (empty.run (abortedInsert.take 2)) ⟨0⟩
  have haborts : empty.Aborts ⟨0⟩ abortedInsert := ⟨abortedInsert.take 4, _, [], rfl, rfl, rfl⟩
  refine ⟨(hbound _ rfl).2.mpr (not_drops rfl), ?_, haborts, ?_⟩
  · rcases hchanges none (.abortTransaction ⟨0⟩) with hwrite | ⟨_, hcommit⟩ | hquiet
    · cases hwrite.1
    · cases hcommit
    · exact hquiet.1
  · have hdrop : ∀ step ∈ abortedInsert, step.handle? = some ⟨0⟩ → step.call.drop? = none := by
      simp [abortedInsert, Call.drop?]
    exact ((sessions_isolated empty ⟨0⟩).2.2 abortedInsert numbered_empty haborts hdrop).1

-- A collection is dropped in a session that is aborted.
def abortedDrop : List Step :=
  [
    { call := .insertOne "c" [("_id", .int32 1)] },
    { call := .startSession },
    { session := some ⟨0⟩, call := .runCommand [("drop", .string "c")] },
    { call := .abortTransaction ⟨0⟩ }
  ]

-- A command in a session can change what is committed, and aborting the session
-- does not bring it back.
theorem drop_in_session_not_isolated :
    (¬ ∀ s : Store, s.Reachable → ∀ (id : SessionId) (c : Call), (s.session? id).isSome = true →
      c.takesSession = true → (s.perform (some id) c).2.committed = s.committed) ∧
    ¬ ∀ (id : SessionId) (steps : List Step), empty.Aborts id steps →
      (empty.run steps).committed =
        (empty.run (steps.filter fun step => step.handle? != some id)).committed := by
  constructor
  · intro h
    have hsame := h (empty.after [(none, .insertOne "c" [("_id", .int32 1)]), (none, .startSession)])
      ⟨_, rfl⟩ ⟨0⟩ (.runCommand [("drop", .string "c")]) rfl rfl
    cases hsame
  · intro h
    have hsame := h ⟨0⟩ abortedDrop ⟨abortedDrop.take 3, _, [], rfl, rfl, rfl⟩
    cases hsame

end Store

end DocStore
