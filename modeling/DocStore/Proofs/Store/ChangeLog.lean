import DocStore.Proofs.Collection.Log
import DocStore.Proofs.Store.Direct
import DocStore.Proofs.Store.Identifier

namespace DocStore

-- The events of one collection among those of all.
def heard (name : String) (events : List (String × Document)) : List Document :=
  (events.filter (·.1 == name)).map (·.2)

theorem heard_append (name : String) (events others : List (String × Document)) :
    heard name (events ++ others) = heard name events ++ heard name others := by
  simp [heard]

theorem heard_eventsOf {α : Type} (name target : String) (w : Write α) :
    heard name (Store.eventsOf target w) = if target = name then w.events else [] := by
  unfold heard Store.eventsOf
  split
  · next h =>
      have hall : (w.events.map fun event => (target, event)).filter (·.1 == name) =
          w.events.map fun event => (target, event) := by simp [List.filter_eq_self, h]
      rw [hall, List.map_map]
      exact List.map_id _
  · next h => simp [List.filter_eq_nil_iff, h]

theorem heard_announced_of_ne {α : Type} {name target : String} (w : Write α) (h : target ≠ name) :
    heard name (w.announced target) = [] := by
  unfold Write.announced
  split
  · rw [heard_eventsOf, if_neg h]
  · rfl

-- An open subscription takes up the events of its collection and no others.
theorem receive_all (name : String) (pending : List Document) (events : List (String × Document)) :
    events.foldl Subscription.receive ⟨name, pending, true⟩ = ⟨name, pending ++ heard name events, true⟩ := by
  induction events generalizing pending with
  | nil => simp [heard]
  | cons event rest ih =>
      by_cases h : event.1 = name
      · simp [Subscription.receive, h, ih, heard]
      · simp [Subscription.receive, Ne.symm h, h, ih, heard]

namespace Call

variable {c : Call} {name : String} {f : ObjectId → List Document → Write c.Answer} {docs : List Document}

theorem replay_write (h : c.write? = some (name, f)) (hc : c.WellFormed) (hspare : c.sparesId = true)
    (fresh : ObjectId) (hk : Collection.Keyed docs) :
    Collection.replay (f fresh docs).events docs = (f fresh docs).documents := by
  cases c with
  | insertOne name d =>
      cases h
      exact Collection.replay_insertOne d
  | updateMany name filter update upsert =>
      cases h
      exact Collection.replay_update hspare (hc update (by simp [documents])) hk
  | updateOne name filter update upsert =>
      cases h
      exact Collection.replay_update hspare (hc update (by simp [documents])) hk
  | replaceOne name filter replacement upsert =>
      cases h
      exact Collection.replay_replaceOne hk
  | deleteMany name filter =>
      cases h
      exact Collection.replay_deleteMany hk
  | _ => cases h

-- Only an update of many documents changes some of them and fails.
theorem write_error_documents (h : c.write? = some (name, f)) {fresh : ObjectId} {e : StoreError}
    (he : (f fresh docs).outcome = .error e)
    (hone : ∀ filter update upsert, c ≠ .updateMany name filter update upsert) :
    (f fresh docs).documents = docs := by
  cases c with
  | insertOne name d =>
      cases h
      exact Collection.insertOne_error he
  | updateMany name filter update upsert =>
      cases h
      exact absurd rfl (hone filter update upsert)
  | updateOne name filter update upsert =>
      cases h
      exact Collection.update_first_error he
  | replaceOne name filter replacement upsert =>
      cases h
      exact Collection.replaceOne_error he
  | deleteMany name filter =>
      cases h
      exact Collection.deleteMany_error he
  | _ => cases h

-- What goes out with a write tells all that the write did.
theorem replay_announced (h : c.write? = some (name, f)) (hc : c.WellFormed) (hspare : c.sparesId = true)
    (fresh : ObjectId) (hk : Collection.Keyed docs)
    (hsettled : ∀ filter update upsert, c = .updateMany name filter update upsert →
      (f fresh docs).outcome.isOk = true) :
    Collection.replay (heard name ((f fresh docs).announced name)) docs = (f fresh docs).documents := by
  cases ho : (f fresh docs).outcome with
  | ok answer =>
      have hannounced : (f fresh docs).announced name = Store.eventsOf name (f fresh docs) := by
        simp [Write.announced, ho]
      rw [hannounced, heard_eventsOf, if_pos rfl]
      exact replay_write h hc hspare fresh hk
  | error e =>
      have hannounced : (f fresh docs).announced name = [] := by simp [Write.announced, ho]
      rw [hannounced]
      refine (write_error_documents h ho fun filter update upsert hmany => ?_).symm
      have hok := hsettled filter update upsert hmany
      rw [ho] at hok
      cases hok

end Call

namespace Store

-- Whether what is written in a session, or in none, comes to be committed: in none
-- it is at once, in a session if some step of the run commits it.
def Lasts (s : Store) (steps : List Step) : Option SessionId → Prop
  | none => True
  | some id => ∃ before step after, steps = before ++ step :: after ∧
      step.call = .commitTransaction id ∧ (s.run before).accepts step = true

-- Whether a step writes to what is committed.
def Publishes (s : Store) (step : Step) : Prop :=
  (step.call.isWrite = true ∧ step.session = none) ∨
    ∃ id, step.call = .commitTransaction id ∧ s.accepts step = true

-- Whether the identifiers of the collection are distinct and hold no NaN, in what is
-- committed and in every session that comes to be committed.
def DistinctIds (name : String) (s : Store) (steps : List Step) : Prop :=
  ∀ session data, s.Lasts steps session → s.view session = .ok data →
    Collection.UniqueIds (data.documents name) ∧
      ∀ d ∈ data.documents name, ∀ id, d.id? = some id → id.hasNaN = false

-- What is asked of one step of a run, made on `s` with the rest of the run to come,
-- for the log of a collection to be complete.
structure Traceable (name : String) (s : Store) (step : Step) (rest : List Step) : Prop where
  keeps : step.call.drop? = none
  -- No write that comes to be committed writes below an identifier.
  spares : step.target? = some name → (s.next step).Lasts rest step.session →
    step.call.WellFormed ∧ step.call.sparesId = true
  -- No update of many documents that comes to be committed fails on the way.
  settled : ∀ filter update upsert, step.call = .updateMany name filter update upsert →
    (s.next step).Lasts rest step.session → s.accepts step = true
  -- While a session is on that is committed later, nothing else is written to what is committed.
  alone : s.Publishes step → ∀ id, (s.next step).Lasts rest (some id) → (s.session? id).isSome = true →
    step.call = .commitTransaction id

-- Whether the identifiers stay distinct and every step of a run is traceable.
def TraceableRun (name : String) : Store → List Step → Prop
  | s, [] => s.DistinctIds name []
  | s, step :: rest =>
    s.DistinctIds name (step :: rest) ∧ s.Traceable name step rest ∧ TraceableRun name (s.next step) rest

-- What holds all along such a run: a session that comes to be committed holds back
-- the events that lead from what is committed to its snapshot.
structure Recorded (name : String) (s : Store) (steps : List Step) : Prop where
  identified : Collection.Identified (s.documents name)
  sessions : ∀ id own, s.session? id = some own → s.Lasts steps (some id) →
    Collection.Identified (own.data.documents name) ∧
      Collection.replay (heard name own.events) (s.documents name) = own.data.documents name

-- Whether the events pending with a subscription lead from some documents to those
-- that are committed.
def Told (name : String) (index : Nat) (docs : List Document) (s : Store) : Prop :=
  ∃ pending, s.subscriptions[index]? = some ⟨name, pending, true⟩ ∧
    Collection.replay pending docs = s.documents name

section

variable {name : String} {s t : Store} {step : Step} {steps rest : List Step}

theorem Lasts.cons {session : Option SessionId} (h : (s.next step).Lasts rest session) :
    s.Lasts (step :: rest) session := by
  cases session with
  | none => trivial
  | some id =>
      obtain ⟨before, made, after, rfl, hcall, haccepts⟩ := h
      exact ⟨step :: before, made, after, rfl, hcall, haccepts⟩

theorem DistinctIds.keyed {session : Option SessionId} {data : Collections} (h : s.DistinctIds name steps)
    (hlast : s.Lasts steps session) (hv : s.view session = .ok data)
    (hi : Collection.Identified (data.documents name)) : Collection.Keyed (data.documents name) :=
  Collection.keyed_of_no_nan hi (h session data hlast hv).1 (h session data hlast hv).2

-- The store that the write of a step is made on.
def granted (s : Store) (step : Step) : Store :=
  { s.meeting step with identifiers := step.serial + step.call.identifiersGiven }

section

variable {target : String} {f : ObjectId → List Document → Write step.call.Answer}

theorem next_of_write (hw : step.call.write? = some (target, f))
    (hready : step.failing ≠ some step.call.name) :
    s.next step = ((s.granted step).write step.session target (f (.generated step.serial))).2 := by
  rw [next_of_ready hready, answer_of_write hw]
  rfl

theorem outcome_of_accepts {data : Collections} (hw : step.call.write? = some (target, f))
    (hv : s.view step.session = .ok data) (h : s.accepts step = true) :
    (f (.generated step.serial) (data.documents target)).outcome.isOk = true := by
  have hview : (s.granted step).view step.session = .ok data := hv
  rw [accepts, play_of_ready (ready_of_accepts h), answer_of_write hw] at h
  exact (write_outcome hview target (f (.generated step.serial))) ▸ h

end

-- Whether nothing was written on the way from one store to another. A session that
-- is there was there before or has just been started.
structure Idle (s t : Store) : Prop where
  committed : t.committed = s.committed
  quiet : Quiet s t
  sessions : ∀ id own, t.session? id = some own → s.session? id = some own ∨ own = ⟨s.committed, []⟩

-- What a step does that is no drop: nothing, a write to what is committed, a write
-- in a session that is there, or the commit of one.
inductive Effect (s : Store) (step : Step) : Prop where
  | idle (h : Idle s (s.next step))
  | direct (target : String) (f : ObjectId → List Document → Write step.call.Answer)
      (hw : step.call.write? = some (target, f)) (hsession : step.session = none)
      (hnext : s.next step =
        let w := f (.generated step.serial) (s.documents target)
        { s.granted step with committed := s.committed.insert target w.documents }.publish
          (w.announced target))
  | bound (id : SessionId) (own : Session) (target : String)
      (f : ObjectId → List Document → Write step.call.Answer)
      (hw : step.call.write? = some (target, f)) (hsession : step.session = some id)
      (hown : s.session? id = some own)
      (hnext : s.next step =
        let w := f (.generated step.serial) (own.data.documents target)
        (s.granted step).setSession id
          ⟨own.data.insert target w.documents, own.events ++ w.announced target⟩)
  | commits (id : SessionId) (own : Session) (hcall : step.call = .commitTransaction id)
      (haccepts : s.accepts step = true) (hown : s.session? id = some own)
      (hnext : s.next step =
        { (s.meeting step).dropSession id with committed := own.data }.publish own.events)

theorem Idle.of_same (hcommitted : t.committed = s.committed) (hsubs : t.subscriptions = s.subscriptions)
    (hsessions : t.sessions = s.sessions) : Idle s t :=
  ⟨hcommitted, quiet_of_eq hsubs, fun _ _ h => Or.inl (by rwa [session?, hsessions] at h)⟩

theorem Idle.of_meeting (h : (s.meeting step).Idle t) : Idle s t := ⟨h.committed, h.quiet, h.sessions⟩

theorem idle_startSession (s : Store) : Idle s s.startSession.2 := by
  refine ⟨rfl, quiet_of_eq rfl, fun id own h => ?_⟩
  rw [session?_startSession] at h
  cases hold : s.session? id with
  | some old => exact Or.inl (by rwa [hold, Option.some_or] at h)
  | none =>
      rw [hold, Option.none_or] at h
      split at h
      · exact Or.inr (Option.some.inj h).symm
      · cases h

theorem idle_dropSession (s : Store) (id : SessionId) : Idle s (s.dropSession id) := by
  refine ⟨rfl, quiet_of_eq rfl, fun other own h => Or.inl ?_⟩
  rw [session?_dropSession] at h
  split at h
  · cases h
  · exact h

theorem effect_of_write {target : String} {f : ObjectId → List Document → Write step.call.Answer}
    (hw : step.call.write? = some (target, f)) (hready : step.failing ≠ some step.call.name) :
    s.Effect step := by
  have hnext := next_of_write (s := s) hw hready
  cases hsession : step.session with
  | none =>
      rw [hsession, write_none] at hnext
      exact .direct target f hw hsession hnext
  | some id =>
      rw [hsession] at hnext
      have hgranted : (s.granted step).session? id = s.session? id := rfl
      cases hown : s.session? id with
      | some own =>
          rw [write_some (hgranted.trans hown)] at hnext
          exact .bound id own target f hw hsession hown hnext
      | none =>
          rw [write_of_absent (hgranted.trans hown)] at hnext
          refine .idle ?_
          rw [hnext]
          exact Idle.of_same rfl rfl rfl

theorem effect_of_no_drop (s : Store) (step : Step) (hd : step.call.drop? = none) : s.Effect step := by
  by_cases hready : step.failing = some step.call.name
  · refine .idle ?_
    rw [next_of_failing hready]
    exact Idle.of_same rfl rfl rfl
  · have hnext := next_of_ready (s := s) hready
    rcases answer_cases step.call with ⟨target, f, hw⟩ | ⟨name, hdrop⟩ | hcall | ⟨id, hcall⟩ |
      ⟨id, hcall⟩ | ⟨name, hcall⟩ | ⟨_, _, hsame⟩
    · exact effect_of_write hw hready
    · rw [hd] at hdrop
      cases hdrop
    · refine .idle ?_
      rw [hnext, hcall]
      exact (idle_startSession (s.meeting step)).of_meeting
    · cases hown : s.session? id with
      | some own =>
          obtain ⟨haccepts, hcommits⟩ := next_of_commit hcall hready hown
          exact .commits id own hcall haccepts hown hcommits
      | none =>
          have hmeeting : (s.meeting step).session? id = none := hown
          refine .idle ?_
          rw [hnext, hcall]
          simp only [answer, commit, hmeeting]
          exact Idle.of_same rfl rfl rfl
    · refine .idle ?_
      rw [hnext, hcall]
      simp only [answer, abort]
      split
      · exact Idle.of_same rfl rfl rfl
      · exact (idle_dropSession (s.meeting step) id).of_meeting
    · refine .idle ?_
      rw [hnext, hcall]
      exact ⟨rfl, ⟨[_], rfl, by simp⟩, fun _ _ h => Or.inl h⟩
    · refine .idle ?_
      rw [hnext, hsame]
      exact Idle.of_same rfl rfl rfl

section

variable {index : Nat} {docs : List Document}

theorem Told.of_quiet (h : Told name index docs s) (hdocs : t.documents name = s.documents name)
    (hquiet : Quiet s t) : Told name index docs t := by
  obtain ⟨pending, hsub, hreplay⟩ := h
  obtain ⟨opened, hsubs, _⟩ := hquiet
  obtain ⟨hlt, _⟩ := List.getElem?_eq_some_iff.mp hsub
  refine ⟨pending, ?_, hdocs ▸ hreplay⟩
  rw [hsubs, List.getElem?_append_left hlt, hsub]

-- A subscriber that is told what leads on from the committed documents stays told.
theorem Told.publish (h : Told name index docs s) (events : List (String × Document))
    (hsubs : t.subscriptions = (s.publish events).subscriptions)
    (hdocs : Collection.replay (heard name events) (s.documents name) = t.documents name) :
    Told name index docs t := by
  obtain ⟨pending, hsub, hreplay⟩ := h
  refine ⟨pending ++ heard name events, ?_, ?_⟩
  · rw [hsubs, publish_subscriptions, List.getElem?_map, hsub, Option.map_some, receive_all]
  · rw [Collection.replay_append, hreplay, hdocs]

end

section

variable {index : Nat} {docs : List Document} (hr : s.Recorded name (step :: rest))
  (hd : s.DistinctIds name (step :: rest)) (ht : s.Traceable name step rest)

include hd ht

-- What a write makes of the collection, and what it tells of it.
theorem write_recorded {target : String} {f : ObjectId → List Document → Write step.call.Answer}
    (hw : step.call.write? = some (target, f)) {data : Collections}
    (hv : s.view step.session = .ok data) (hlast : (s.next step).Lasts rest step.session)
    (hi : Collection.Identified (data.documents name)) :
    let w := f (.generated step.serial) (data.documents target)
    Collection.Identified (Collections.documents (data.insert target w.documents) name) ∧
      Collection.replay (heard name (w.announced target)) (data.documents name) =
        Collections.documents (data.insert target w.documents) name := by
  intro w
  by_cases htarget : target = name
  · subst htarget
    have hstep : step.target? = some target := by simp [Step.target?, hw]
    obtain ⟨hwf, hspare⟩ := ht.spares hstep hlast
    rw [Collections.documents_insert_self]
    refine ⟨Call.write_identified hw hwf hspare _ hi, ?_⟩
    have hk := hd.keyed (hlast.cons) hv hi
    exact Call.replay_announced hw hwf hspare _ hk fun filter update upsert hmany =>
      outcome_of_accepts hw hv (ht.settled filter update upsert hmany hlast)
  · rw [Collections.documents_insert, if_neg htarget, heard_announced_of_ne w htarget]
    exact ⟨hi, rfl⟩

include hr

-- One step keeps the sessions that are committed later in step with their events.
theorem Recorded.next : (s.next step).Recorded name rest := by
  cases effect_of_no_drop s step ht.keeps with
  | idle h =>
      have hdocs : (s.next step).documents name = s.documents name := by rw [documents, documents, h.committed]
      refine ⟨hdocs ▸ hr.identified, fun id own hown hlast => ?_⟩
      rw [hdocs]
      rcases h.sessions id own hown with hold | rfl
      · exact hr.sessions id own hold (hlast.cons)
      · exact ⟨hr.identified, rfl⟩
  | direct target f hw hsession hnext =>
      have hv : s.view step.session = .ok s.committed := by rw [hsession]; rfl
      have hlast : (s.next step).Lasts rest step.session := by rw [hsession]; trivial
      have hwrite : step.call.isWrite = true := by simp [Call.isWrite_eq, hw]
      obtain ⟨hi, _⟩ := write_recorded hd ht hw hv hlast hr.identified
      refine ⟨?_, fun id own hown hcommitted => ?_⟩
      · rw [hnext, publish_documents]
        exact hi
      · -- Nothing is written directly while a session that lasts is on.
        rw [hnext, session?_publish] at hown
        have hold : s.session? id = some own := hown
        have hcall := ht.alone (.inl ⟨hwrite, hsession⟩) id hcommitted (by simp [hold])
        rw [hcall] at hwrite
        cases hwrite
  | bound id own target f hw hsession hown hnext =>
      have hv : s.view step.session = .ok own.data := by rw [hsession]; simp [view, hown]
      have hdocs : (s.next step).documents name = s.documents name := by rw [hnext]; rfl
      refine ⟨hdocs ▸ hr.identified, fun other after hafter hlast => ?_⟩
      have hgranted : (s.granted step).session? = s.session? := rfl
      rw [hnext, session?_setSession, hgranted] at hafter
      rw [hdocs]
      by_cases hother : other = id
      · subst hother
        rw [if_pos rfl, hown, Option.map_some] at hafter
        obtain rfl := Option.some.inj hafter
        obtain ⟨hi, hreplay⟩ := hr.sessions other own hown (hlast.cons)
        obtain ⟨hi', hreplay'⟩ := write_recorded hd ht hw hv (hsession ▸ hlast) hi
        refine ⟨hi', ?_⟩
        rw [heard_append, Collection.replay_append]
        exact (congrArg (Collection.replay _) hreplay).trans hreplay'
      · rw [if_neg hother] at hafter
        exact hr.sessions other after hafter (hlast.cons)
  | commits id own hcall haccepts hown hnext =>
      have hlast : s.Lasts (step :: rest) (some id) := ⟨[], step, rest, rfl, hcall, haccepts⟩
      refine ⟨?_, fun other after hafter hcommitted => ?_⟩
      · rw [hnext, publish_documents]
        exact (hr.sessions id own hown hlast).1
      · -- No other session that lasts is on, and this one is over.
        rw [hnext, session?_publish] at hafter
        have hdropped : ((s.meeting step).dropSession id).session? other = some after := hafter
        rw [session?_dropSession] at hdropped
        split at hdropped
        · cases hdropped
        · next hother =>
            have hold : s.session? other = some after := hdropped
            have hsame := ht.alone (.inr ⟨id, hcall, haccepts⟩) other hcommitted (by simp [hold])
            rw [hcall] at hsame
            cases hsame
            exact absurd rfl hother

-- One step tells a subscriber all that it does to the collection.
theorem Told.next (h : Told name index docs s) : Told name index docs (s.next step) := by
  cases effect_of_no_drop s step ht.keeps with
  | idle hidle => exact h.of_quiet (by rw [documents, documents, hidle.committed]) hidle.quiet
  | direct target f hw hsession hnext =>
      have hv : s.view step.session = .ok s.committed := by rw [hsession]; rfl
      have hlast : (s.next step).Lasts rest step.session := by rw [hsession]; trivial
      obtain ⟨_, hreplay⟩ := write_recorded hd ht hw hv hlast hr.identified
      rw [hnext]
      refine h.publish ((f (.generated step.serial) (s.documents target)).announced target) ?_ ?_
      · simp [granted, meeting]
      · rw [publish_documents]
        exact hreplay
  | bound id own target f hw hsession hown hnext =>
      rw [hnext]
      exact h.of_quiet rfl (quiet_of_eq rfl)
  | commits id own hcall haccepts hown hnext =>
      have hlast : s.Lasts (step :: rest) (some id) := ⟨[], step, rest, rfl, hcall, haccepts⟩
      rw [hnext]
      refine h.publish own.events ?_ ?_
      · simp [dropSession, meeting]
      · rw [publish_documents]
        exact (hr.sessions id own hown hlast).2

end

-- A whole run does what its steps do.
theorem Recorded.run {before : List Step} (hr : s.Recorded name (before ++ rest))
    (ht : TraceableRun name s (before ++ rest)) :
    (s.run before).Recorded name rest ∧ TraceableRun name (s.run before) rest := by
  induction before generalizing s with
  | nil => exact ⟨hr, ht⟩
  | cons step others ih =>
      obtain ⟨hd, hstep, hrest⟩ := ht
      exact ih (hr.next hd hstep) hrest

theorem Told.run {index : Nat} {docs : List Document} (h : Told name index docs s)
    (hr : s.Recorded name steps) (ht : TraceableRun name s steps) : Told name index docs (s.run steps) := by
  induction steps generalizing s with
  | nil => exact h
  | cons step rest ih =>
      obtain ⟨hd, hstep, hrest⟩ := ht
      exact ih (h.next hr hd hstep) (hr.next hd hstep) hrest

theorem TraceableRun.keeps (ht : TraceableRun name s steps) : ∀ step ∈ steps, step.call.drop? = none := by
  induction steps generalizing s with
  | nil => simp
  | cons step rest ih => exact List.forall_mem_cons.mpr ⟨ht.2.1.keeps, ih ht.2.2⟩

theorem recorded_of_no_session (hfresh : ∀ id, s.session? id = none)
    (hi : Collection.Identified (s.documents name)) : s.Recorded name steps := by
  refine ⟨hi, fun id own hown => ?_⟩
  rw [hfresh id] at hown
  cases hown

theorem told_watch (hcall : step.call = .watch name) (haccepts : s.accepts step = true) :
    Told name s.subscriptions.length (s.documents name) (s.next step) := by
  rw [next_of_ready (ready_of_accepts haccepts), hcall]
  exact ⟨[], List.getElem?_concat_length, rfl⟩

-- Replaying what a subscriber has been told, on the documents that were committed
-- when it subscribed, gives those that are committed now, in their order; and a
-- session that was aborted has told it nothing.
theorem replay_pending_eq_documents {before after : List Step} {watch : Step}
    (hfresh : ∀ id, s.session? id = none) (hi : Collection.Identified (s.documents name))
    (hcall : watch.call = .watch name) (haccepts : (s.run before).accepts watch = true)
    (ht : TraceableRun name s (before ++ watch :: after)) :
    (∃ pending, (s.run (before ++ watch :: after)).subscriptions[(s.run before).subscriptions.length]? =
        some ⟨name, pending, true⟩ ∧
      Collection.replay pending ((s.run before).documents name) =
        (s.run (before ++ watch :: after)).documents name) ∧
      ∀ id, s.Aborts id (before ++ watch :: after) →
        (s.run (before ++ watch :: after)).subscriptions =
          (s.run ((before ++ watch :: after).filter fun step => step.handle? != some id)).subscriptions := by
  constructor
  · obtain ⟨hr, hd, hwatch, hafter⟩ := (recorded_of_no_session hfresh hi).run ht
    rw [run_append, run_cons]
    exact (told_watch hcall haccepts).run (hr.next hd hwatch) hafter
  · intro id haborts
    have hn : s.Numbered := fun id _ => hfresh id
    have hdrop : ∀ step ∈ before ++ watch :: after, step.handle? = some id → step.call.drop? = none :=
      fun step hstep _ => ht.keeps step hstep
    exact ((AgreeApart.refl id s).run hdrop (haborts.neverCommits hn)).subscriptions

end

-- The same asked of a run step by step, as it can be computed: every write succeeds,
-- and none comes between the start of a session and a commit of it.
def distinctIds? (name : String) (s : Store) : Bool :=
  (s.committed :: s.sessions.map (·.2.data)).all fun data =>
    decide ((data.documents name).Pairwise fun d e => d.sharesId e = false ∧ e.sharesId d = false) &&
      (data.documents name).all fun d => d.id?.all (!·.hasNaN)

def commits? : Call → Option SessionId
  | .commitTransaction id => some id
  | _ => none

def traceable? (name : String) (s : Store) (step : Step) (rest : List Step) : Bool :=
  step.call.drop?.isNone &&
  (step.target? != some name || step.call.sparesId && s.accepts step) &&
  (!(step.call.isWrite && step.session.isNone || (commits? step.call).isSome) ||
    s.sessions.all fun entry => commits? step.call == some entry.1 ||
      rest.all (commits? ·.call != some entry.1))

def traceableRun? (name : String) : Store → List Step → Bool
  | s, [] => distinctIds? name s
  | s, step :: rest =>
    distinctIds? name s && traceable? name s step rest && traceableRun? name (s.next step) rest

section

variable {name : String} {s : Store} {step : Step} {steps rest : List Step}

theorem commits?_eq_some {c : Call} {id : SessionId} : commits? c = some id ↔ c = .commitTransaction id := by
  cases c <;> simp [commits?]

theorem distinctIds_of_check (h : distinctIds? name s = true) (steps : List Step) :
    s.DistinctIds name steps := by
  have hall : s.All fun data => Collection.UniqueIds (data.documents name) ∧
      ∀ d ∈ data.documents name, ∀ id, d.id? = some id → id.hasNaN = false := by
    have hdata : ∀ data ∈ s.committed :: s.sessions.map (·.2.data),
        Collection.UniqueIds (data.documents name) ∧
          ∀ d ∈ data.documents name, ∀ id, d.id? = some id → id.hasNaN = false := by
      intro data hmem
      have hchecked := List.all_eq_true.mp h data hmem
      simp only [Bool.and_eq_true, decide_eq_true_eq, List.all_eq_true] at hchecked
      refine ⟨hchecked.1, fun d hd id hid => ?_⟩
      simpa [hid] using hchecked.2 d hd
    refine ⟨hdata _ List.mem_cons_self, fun entry hentry => ?_⟩
    exact hdata _ (List.mem_cons_of_mem _ (List.mem_map_of_mem hentry))
  exact fun _ _ _ hv => hall.of_view hv

theorem traceable_of_check (hwf : step.call.WellFormed) (h : traceable? name s step rest = true) :
    s.Traceable name step rest := by
  simp only [traceable?, Bool.and_eq_true, Option.isNone_iff_eq_none] at h
  obtain ⟨⟨hkeeps, hwrite⟩, halone⟩ := h
  have htarget (hstep : step.target? = some name) : step.call.sparesId = true ∧ s.accepts step = true := by
    simpa [hstep] using hwrite
  refine ⟨hkeeps, fun hstep _ => ⟨hwf, (htarget hstep).1⟩, fun filter update upsert hmany _ => ?_, ?_⟩
  · exact (htarget (by rw [Step.target?, hmany]; rfl)).2
  · intro hpublishes id hlast hsome
    obtain ⟨own, hown⟩ := Option.isSome_iff_exists.mp hsome
    have hwrites : (step.call.isWrite && step.session.isNone || (commits? step.call).isSome) = true := by
      rcases hpublishes with ⟨hw, hsession⟩ | ⟨other, hcall, _⟩
      · simp [hw, hsession]
      · simp [commits?_eq_some.mpr hcall]
    rw [hwrites] at halone
    have hentry := List.all_eq_true.mp halone _ (mem_sessions_of_session? hown)
    obtain ⟨before, made, after, rfl, hmade, _⟩ := hlast
    simpa [commits?_eq_some, hmade] using hentry

theorem traceableRun_of_check (hwf : ∀ step ∈ steps, step.call.WellFormed)
    (h : traceableRun? name s steps = true) : TraceableRun name s steps := by
  induction steps generalizing s with
  | nil => exact distinctIds_of_check h []
  | cons step rest ih =>
      obtain ⟨hstep, hrest⟩ := List.forall_mem_cons.mp hwf
      simp only [traceableRun?, Bool.and_eq_true] at h
      exact ⟨distinctIds_of_check h.1.1 _, traceable_of_check hstep h.1.2, ih hrest h.2⟩

end

-- A collection is watched while a session is on that is committed; another session is
-- aborted while documents are deleted in none.
def loggedBefore : List Step :=
  [
    { call := .insertOne "c" [("_id", .int32 1), ("v", .int32 1)] },
    { call := .startSession },
    { session := some ⟨0⟩, call := .insertOne "c" [("_id", .int32 2), ("v", .int32 1)] }
  ]

def loggedAfter : List Step :=
  [
    { session := some ⟨0⟩,
      call := .updateMany "c" [] [("$set", .document [("v", .int32 2)])] false },
    { call := .commitTransaction ⟨0⟩ },
    { call := .replaceOne "c" [("_id", .int32 1)] [("v", .int32 3)] false },
    { call := .startSession },
    { session := some ⟨1⟩, call := .deleteMany "c" [] },
    { call := .updateOne "c" [("_id", .int32 3)] [("$set", .document [("v", .int32 4)])] true },
    { call := .deleteMany "c" [("_id", .int32 2)] },
    { call := .abortTransaction ⟨1⟩ }
  ]

def loggedWatch : Step := { call := .watch "c" }

theorem replay_pending_logged :
    let steps := loggedBefore ++ loggedWatch :: loggedAfter
    (∀ id, empty.session? id = none) ∧ Collection.Identified (empty.documents "c") ∧
      (empty.run loggedBefore).accepts loggedWatch = true ∧ TraceableRun "c" empty steps ∧
      empty.Aborts ⟨1⟩ steps ∧
      (∃ pending, (empty.run steps).subscriptions[0]? = some ⟨"c", pending, true⟩ ∧
        Collection.replay pending [[("_id", .int32 1), ("v", .int32 1)]] =
          (empty.run steps).documents "c") ∧
      (empty.run steps).subscriptions =
        (empty.run (steps.filter fun step => step.handle? != some ⟨1⟩)).subscriptions := by
  have hfresh : ∀ id, empty.session? id = none := fun _ => rfl
  have hi : Collection.Identified (empty.documents "c") := fun _ hd => by cases hd
  have haccepts : (empty.run loggedBefore).accepts loggedWatch = true := rfl
  have hwf : ∀ step ∈ loggedBefore ++ loggedWatch :: loggedAfter, step.call.WellFormed := by
    simp [loggedBefore, loggedWatch, loggedAfter, Call.WellFormed, Call.documents, Value.WellFormed,
      Value.WellFormedFields, OrderedMap.Distinct, OrderedMap.keys]
  have ht : TraceableRun "c" empty (loggedBefore ++ loggedWatch :: loggedAfter) :=
    traceableRun_of_check hwf (by decide +kernel)
  have haborts : empty.Aborts ⟨1⟩ (loggedBefore ++ loggedWatch :: loggedAfter) :=
    ⟨loggedBefore ++ loggedWatch :: loggedAfter.take 7, { call := .abortTransaction ⟨1⟩ }, [], rfl, rfl,
      by decide +kernel⟩
  obtain ⟨htold, hquiet⟩ := replay_pending_eq_documents hfresh hi rfl haccepts ht
  exact ⟨hfresh, hi, haccepts, ht, haborts, htold, hquiet ⟨1⟩ haborts⟩

end Store

end DocStore
