import DocStore.Proofs.Store.Effect

namespace DocStore

namespace Call

-- Whether a call can be made in a session.
def takesSession : Call → Bool
  | dropCollection _ => false
  | collectionNames => false
  | startSession => false
  | commitTransaction _ => false
  | abortTransaction _ => false
  | bucket .. => false
  | watch _ => false
  | _ => true

-- The session that a call has to do with: the one it is made in or the one it ends.
def handle? (c : Call) (session : Option SessionId) : Option SessionId :=
  match c with
  | commitTransaction id => some id
  | abortTransaction id => some id
  | c => if c.takesSession then session else none

theorem handle?_of_takesSession {c : Call} (h : c.takesSession = true) (session : Option SessionId) :
    c.handle? session = session := by
  cases c <;> first | rfl | cases h

theorem takesSession_of_write {c : Call} {name : String}
    {f : ObjectId → List Document → Write c.Answer} (h : c.write? = some (name, f)) :
    c.takesSession = true := by
  cases c <;> first | rfl | cases h

end Call

-- A call as it comes to a store: in a session or in none, with the number of the
-- next identifier and the call that was asked to fail.
structure Step where
  session : Option SessionId := none
  call : Call
  serial : Nat := 0
  failing : Option String := none

def Step.handle? (step : Step) : Option SessionId := step.call.handle? step.session

-- Whether a step commits or aborts a session.
def Step.Ends (step : Step) (id : SessionId) : Prop :=
  step.call = .commitTransaction id ∨ step.call = .abortTransaction id

namespace Store

def facing (s : Store) (step : Step) : Store :=
  { s with identifiers := step.serial, failing := step.failing }

def play (s : Store) (step : Step) : Except StoreError step.call.Answer × Store :=
  (s.facing step).perform step.session step.call

def next (s : Store) (step : Step) : Store := (s.play step).2

def accepts (s : Store) (step : Step) : Bool := (s.play step).1.isOk

def run (s : Store) (steps : List Step) : Store := steps.foldl next s

-- Whether all steps of a run are answered without an error.
def acceptsAll : Store → List Step → Bool
  | _, [] => true
  | s, step :: rest => s.accepts step && (s.next step).acceptsAll rest

-- Whether only sessions with a number that was given out are there.
def Numbered (s : Store) : Prop := ∀ id : SessionId, s.sessionsStarted ≤ id.serial → s.session? id = none

-- Whether a session was there and is no more.
def Ended (s : Store) (id : SessionId) : Prop := id.serial < s.sessionsStarted ∧ s.session? id = none

@[simp] theorem run_nil (s : Store) : s.run [] = s := rfl

@[simp] theorem run_cons (s : Store) (step : Step) (rest : List Step) :
    s.run (step :: rest) = (s.next step).run rest := rfl

theorem run_append (s : Store) (steps others : List Step) :
    s.run (steps ++ others) = (s.run steps).run others := by
  simp [run]

-- Calls that come one after the other are a run.
theorem exists_run_eq_after (s : Store) (calls : List (Option SessionId × Call)) :
    ∃ steps : List Step, steps.map (fun step => (step.session, step.call)) = calls ∧
      s.run steps = s.after calls := by
  induction calls generalizing s with
  | nil => exact ⟨[], rfl, rfl⟩
  | cons made rest ih =>
      let step : Step := ⟨made.1, made.2, s.identifiers, s.failing⟩
      obtain ⟨steps, hmap, hrun⟩ := ih (s.next step)
      exact ⟨step :: steps, by simp [hmap, step], by simpa [after, next, play, facing, step] using hrun⟩

section

variable {s : Store} {session : Option SessionId} {c : Call} {id : SessionId}

theorem session?_startSession (s : Store) (id : SessionId) :
    s.startSession.2.session? id =
      (s.session? id).or (if id = ⟨s.sessionsStarted⟩ then some { data := s.committed } else none) := by
  simp only [startSession, session?, List.lookup_append, List.lookup_cons, List.lookup_nil]
  by_cases h : id = ⟨s.sessionsStarted⟩
  · simp [h]
  · simp [h, beq_false_of_ne h]

theorem session?_dropSession (s : Store) (id other : SessionId) :
    (s.dropSession id).session? other = if other = id then none else s.session? other := by
  unfold session? dropSession
  induction s.sessions with
  | nil => split <;> rfl
  | cons entry rest ih =>
      obtain ⟨key, own⟩ := entry
      by_cases hk : key = id
      · subst hk
        by_cases ho : other = key
        · simpa [ho] using ih
        · simpa [ho, List.lookup_cons, beq_false_of_ne ho] using ih
      · have hkeep : (key != id) = true := by simpa using hk
        by_cases ho : other = key
        · simp [hkeep, ho, hk]
        · simpa [hkeep, ho, List.lookup_cons, beq_false_of_ne ho] using ih

@[simp] theorem session?_publish (s : Store) (events : List (String × Document)) (id : SessionId) :
    (s.publish events).session? id = s.session? id := by
  unfold session?
  rw [publish_sessions]

theorem write_of_absent {α : Type} (h : s.session? id = none) (name : String)
    (f : List Document → Write α) :
    s.write (some id) name f = (.error (.unknownSession id), s) :=
  write_of_view_error (by simp [view, h]) name f

theorem session?_write_of_ne {α : Type} (name : String) (f : List Document → Write α)
    (h : session ≠ some id) : (s.write session name f).2.session? id = s.session? id := by
  cases session with
  | none =>
      rw [write_none]
      exact session?_publish _ _ id
  | some other =>
      have hne : id ≠ other := fun he => h (he ▸ rfl)
      cases hs : s.session? other with
      | none => rw [write_of_absent hs]
      | some own => rw [write_some hs, session?_setSession, if_neg hne]

-- A call leaves every session alone but the one that it writes in, ends or starts.
theorem session?_answer_of_keep (hwrite : c.write?.isSome = true → session ≠ some id)
    (hcommit : c ≠ .commitTransaction id) (habort : c ≠ .abortTransaction id)
    (hnew : c = .startSession → id ≠ ⟨s.sessionsStarted⟩) :
    (s.answer session c).2.session? id = s.session? id := by
  rcases answer_cases c with ⟨name, f, hw⟩ | ⟨name, hd⟩ | rfl | ⟨ended, rfl⟩ | ⟨ended, rfl⟩ |
    ⟨name, rfl⟩ | ⟨_, _, hsame⟩
  · rw [answer_of_write hw, session?_write_of_ne _ _ (hwrite (by rw [hw]; rfl))]
    rfl
  · rw [answer_of_drop hd]
    rfl
  · simp only [answer]
    rw [session?_startSession, if_neg (hnew rfl), Option.or_none]
  · have hne : id ≠ ended := fun he => hcommit (he ▸ rfl)
    simp only [answer, commit]
    split
    · rfl
    · rw [session?_publish]
      exact (session?_dropSession s ended id).trans (if_neg hne)
  · have hne : id ≠ ended := fun he => habort (he ▸ rfl)
    simp only [answer, abort]
    split
    · rfl
    · rw [session?_dropSession, if_neg hne]
  · rfl
  · rw [hsame]

theorem session?_answer_of_ne (h : c.handle? session ≠ some id)
    (hnew : c = .startSession → id ≠ ⟨s.sessionsStarted⟩) :
    (s.answer session c).2.session? id = s.session? id := by
  refine session?_answer_of_keep (fun hwrite => ?_) ?_ ?_ hnew
  · obtain ⟨⟨name, f⟩, hw⟩ := Option.isSome_iff_exists.mp hwrite
    rwa [Call.handle?_of_takesSession (Call.takesSession_of_write hw)] at h
  · rintro rfl
    exact h rfl
  · rintro rfl
    exact h rfl

-- A call that has to do with a session that is not there does not make it.
theorem session?_answer_of_none (h : s.session? id = none)
    (hnew : c = .startSession → id ≠ ⟨s.sessionsStarted⟩) : (s.answer session c).2.session? id = none := by
  by_cases hh : c.handle? session = some id
  · rcases answer_cases c with ⟨name, f, hw⟩ | ⟨name, hd⟩ | rfl | ⟨ended, rfl⟩ | ⟨ended, rfl⟩ |
      ⟨name, rfl⟩ | ⟨_, _, hsame⟩
    · rw [Call.handle?_of_takesSession (Call.takesSession_of_write hw)] at hh
      subst hh
      rw [answer_of_write hw, write_of_absent]
      · exact h
      · exact h
    · rw [answer_of_drop hd]
      exact h
    · cases hh
    · cases hh
      simp [answer, commit, h]
    · cases hh
      simp [answer, abort, h]
    · cases hh
    · rw [hsame, h]
  · rw [session?_answer_of_ne hh hnew, h]

theorem sessionsStarted_write {α : Type} (s : Store) (session : Option SessionId) (name : String)
    (f : List Document → Write α) : (s.write session name f).2.sessionsStarted = s.sessionsStarted := by
  unfold write
  split
  · dsimp only
    split <;> simp
  · split
    · rfl
    · dsimp only
      split <;> rfl

theorem sessionsStarted_answer (h : c ≠ .startSession) :
    (s.answer session c).2.sessionsStarted = s.sessionsStarted := by
  rcases answer_cases c with ⟨name, f, hw⟩ | ⟨name, hd⟩ | rfl | ⟨ended, rfl⟩ | ⟨ended, rfl⟩ |
    ⟨name, rfl⟩ | ⟨_, _, hsame⟩
  · rw [answer_of_write hw, sessionsStarted_write]
  · rw [answer_of_drop hd]
    rfl
  · exact absurd rfl h
  · simp only [answer, commit]
    split
    · rfl
    · simp [dropSession]
  · simp only [answer, abort]
    split <;> rfl
  · rfl
  · rw [hsame]

theorem Numbered.answer (h : s.Numbered) (session : Option SessionId) (c : Call) :
    (s.answer session c).2.Numbered := by
  intro id hid
  by_cases hc : c = .startSession
  · subst hc
    have hlt : s.sessionsStarted < id.serial := hid
    exact session?_answer_of_none (h id (Nat.le_of_lt hlt)) fun _ he => (by simp [he] at hlt)
  · rw [sessionsStarted_answer hc] at hid
    exact session?_answer_of_none (h id hid) fun he => absurd he hc

theorem Ended.answer (h : s.Ended id) (session : Option SessionId) (c : Call) :
    (s.answer session c).2.Ended id := by
  obtain ⟨hlt, hnone⟩ := h
  refine ⟨?_, session?_answer_of_none hnone fun _ he => (by simp [he] at hlt)⟩
  by_cases hc : c = .startSession
  · subst hc
    exact Nat.lt_succ_of_lt hlt
  · rw [sessionsStarted_answer hc]
    exact hlt

end

section

variable {s : Store} {step : Step} {id : SessionId}

-- The store that answers the call of a step.
def meeting (s : Store) (step : Step) : Store :=
  { s with operations := s.operations + 1, identifiers := step.serial, failing := step.failing }

theorem play_of_ready (h : step.failing ≠ some step.call.name) :
    s.play step = (s.meeting step).answer step.session step.call :=
  perform_of_ready h

theorem next_of_ready (h : step.failing ≠ some step.call.name) :
    s.next step = ((s.meeting step).answer step.session step.call).2 := by
  rw [next, play_of_ready h]

theorem next_of_failing (h : step.failing = some step.call.name) :
    s.next step = { s.meeting step with failing := none } := by
  rw [next, play, perform_of_failing h]
  rfl

theorem ready_of_accepts (h : s.accepts step = true) : step.failing ≠ some step.call.name := by
  intro hf
  rw [accepts, play, perform_of_failing hf] at h
  cases h

-- Only a session that is there can be ended.
theorem isSome_of_accepts (h : s.accepts step = true) (hends : step.Ends id) :
    (s.session? id).isSome = true := by
  have hready := ready_of_accepts h
  obtain ⟨session, call, serial, failing⟩ := step
  rw [accepts, play_of_ready hready] at h
  cases hs : s.session? id with
  | some own => rfl
  | none =>
      have hmeeting : (s.meeting ⟨session, call, serial, failing⟩).session? id = none := hs
      rcases hends with rfl | rfl
      · simp [answer, commit, hmeeting, Except.isOk, Except.toBool] at h
      · simp [answer, abort, hmeeting, Except.isOk, Except.toBool] at h

-- A session that is there is committed, unless that is made to fail.
theorem next_of_commit {own : Session} (hcall : step.call = .commitTransaction id)
    (hready : step.failing ≠ some step.call.name) (hown : s.session? id = some own) :
    s.accepts step = true ∧
      s.next step = { (s.meeting step).dropSession id with committed := own.data }.publish own.events := by
  have hmeeting : (s.meeting step).session? id = some own := hown
  constructor
  · rw [accepts, play_of_ready hready, hcall]
    simp only [answer, commit, hmeeting]
    rfl
  · rw [next_of_ready hready, hcall]
    simp only [answer, commit, hmeeting]

theorem Numbered.next (h : s.Numbered) (step : Step) : (s.next step).Numbered := by
  by_cases hf : step.failing = some step.call.name
  · rw [next_of_failing hf]
    exact h
  · rw [next_of_ready hf]
    exact Numbered.answer (s := s.meeting step) h step.session step.call

theorem Ended.next (h : s.Ended id) (step : Step) : (s.next step).Ended id := by
  by_cases hf : step.failing = some step.call.name
  · rw [next_of_failing hf]
    exact h
  · rw [next_of_ready hf]
    exact Ended.answer (s := s.meeting step) h step.session step.call

theorem Numbered.run (h : s.Numbered) (steps : List Step) : (s.run steps).Numbered := by
  induction steps generalizing s with
  | nil => exact h
  | cons step rest ih => exact ih (h.next step)

theorem Ended.run (h : s.Ended id) (steps : List Step) : (s.run steps).Ended id := by
  induction steps generalizing s with
  | nil => exact h
  | cons step rest ih => exact ih (h.next step)

theorem numbered_empty : empty.Numbered := fun _ _ => rfl

theorem Reachable.numbered (h : s.Reachable) : s.Numbered := by
  obtain ⟨calls, rfl⟩ := h
  obtain ⟨steps, _, hrun⟩ := exists_run_eq_after empty calls
  exact hrun ▸ numbered_empty.run steps

-- Ending a session takes it away for good.
theorem ended_next (hn : s.Numbered) (h : s.accepts step = true) (hends : step.Ends id) :
    (s.next step).Ended id := by
  have hsome := isSome_of_accepts h hends
  obtain ⟨own, hown⟩ := Option.isSome_iff_exists.mp hsome
  have hlt : id.serial < s.sessionsStarted := by
    by_cases hlt : id.serial < s.sessionsStarted
    · exact hlt
    · rw [hn id (Nat.le_of_not_lt hlt)] at hown
      cases hown
  rw [next_of_ready (ready_of_accepts h)]
  obtain ⟨session, call, serial, failing⟩ := step
  have hmeeting : (s.meeting ⟨session, call, serial, failing⟩).session? id = some own := hown
  rcases hends with rfl | rfl
  · simp only [answer, commit, hmeeting]
    refine ⟨by simpa [meeting, dropSession] using hlt, ?_⟩
    rw [session?_publish]
    exact (session?_dropSession _ id id).trans (if_pos rfl)
  · simp only [answer, abort, hmeeting]
    exact ⟨hlt, (session?_dropSession _ id id).trans (if_pos rfl)⟩

theorem sessionsStarted_le_next (s : Store) (step : Step) :
    s.sessionsStarted ≤ (s.next step).sessionsStarted := by
  by_cases hf : step.failing = some step.call.name
  · rw [next_of_failing hf]
    exact Nat.le_refl _
  · rw [next_of_ready hf]
    by_cases hc : step.call = .startSession
    · rw [hc]
      exact Nat.le_succ _
    · rw [sessionsStarted_answer hc]
      exact Nat.le_refl _

theorem sessionsStarted_le_run (s : Store) (steps : List Step) :
    s.sessionsStarted ≤ (s.run steps).sessionsStarted := by
  induction steps generalizing s with
  | nil => exact Nat.le_refl _
  | cons step rest ih => exact Nat.le_trans (sessionsStarted_le_next s step) (ih (s.next step))

theorem acceptsAll_append (s : Store) (steps others : List Step) :
    s.acceptsAll (steps ++ others) = (s.acceptsAll steps && (s.run steps).acceptsAll others) := by
  induction steps generalizing s with
  | nil => rfl
  | cons step rest ih => simp [acceptsAll, ih, Bool.and_assoc]

theorem accepts_of_acceptsAll {before after : List Step}
    (h : s.acceptsAll (before ++ step :: after) = true) : (s.run before).accepts step = true := by
  simp only [acceptsAll_append, acceptsAll, Bool.and_eq_true] at h
  exact h.2.1

-- In a run in which all goes well a session is ended once.
theorem ends_once {before between after : List Step} {other : Step} (hn : s.Numbered)
    (h : s.acceptsAll (before ++ step :: (between ++ other :: after)) = true) (hends : step.Ends id) :
    ¬ other.Ends id := by
  intro hother
  have hended : ((s.run before).next step).Ended id :=
    ended_next (hn.run before) (accepts_of_acceptsAll h) hends
  have hsplit : s.acceptsAll ((before ++ step :: between) ++ other :: after) = true := by simpa using h
  have haccepts := accepts_of_acceptsAll hsplit
  rw [run_append, run_cons] at haccepts
  have hsome := isSome_of_accepts haccepts hother
  rw [(hended.run between).2] at hsome
  cases hsome

end

end Store

end DocStore
