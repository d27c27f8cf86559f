import DocStore.Proofs.Store.ChangeLog

namespace DocStore

-- An event, with the collection that it is of and the session, or none, that made it.
structure Announcement where
  session : Option SessionId
  collection : String
  event : Document

namespace Announcement

def told (a : Announcement) : String × Document := (a.collection, a.event)

end Announcement

-- What a write makes, told of its session.
def Write.announcements {α : Type} (w : Write α) (session : Option SessionId) (target : String) :
    List Announcement := w.events.map (⟨session, target, ·⟩)

def Call.aborts? : Call → Option SessionId
  | .abortTransaction id => some id
  | _ => none

-- What a step makes: the events of a write that succeeds.
def Store.makes (s : Store) (step : Step) : List Announcement :=
  match step.call.write?, s.view step.session with
  | some (target, f), .ok data =>
    if s.accepts step then
      (f (.generated step.serial) (data.documents target)).announcements step.session target
    else []
  | _, _ => []

structure Journal where
  -- What has been made so far, published or not, in the order in which it was.
  made : List Announcement := []
  published : List Announcement := []
  aborted : List SessionId := []

namespace Journal

def madeIn (j : Journal) (id : SessionId) : List Announcement := j.made.filter (·.session == some id)

-- What a step publishes: what it makes in no session, or what was made in the
-- session that it commits.
def publishes (j : Journal) (s : Store) (step : Step) : List Announcement :=
  match Store.commits? step.call, step.session with
  | some id, _ => if s.accepts step then j.madeIn id else []
  | none, none => s.makes step
  | none, some _ => []

-- Takes down what a step does.
def after (j : Journal) (s : Store) (step : Step) : Journal where
  made := j.made ++ s.makes step
  published := j.published ++ j.publishes s step
  aborted := j.aborted ++ if s.accepts step then step.call.aborts?.toList else []

-- The journal of a run on a store.
def along (j : Journal) : Store → List Step → Journal
  | _, [] => j
  | s, step :: rest => (j.after s step).along (s.next step) rest

-- The same, with nothing published yet.
def opened (j : Journal) : Journal := { j with published := [] }

def publishedOf (j : Journal) (name : String) : List Announcement :=
  j.published.filter (·.collection == name)

end Journal

theorem heard_told (name : String) (announcements : List Announcement) :
    heard name (announcements.map Announcement.told) =
      (announcements.filter (·.collection == name)).map (·.event) := by
  simp only [heard, List.filter_map, List.map_map]
  rfl

theorem Call.aborts?_eq_some {c : Call} {id : SessionId} : c.aborts? = some id ↔ c = .abortTransaction id := by
  cases c <;> simp [aborts?]

namespace Store

section

variable {s : Store} {step : Step} {id : SessionId}

theorem makes_of_not_write (h : step.call.write? = none) : s.makes step = [] := by
  simp only [makes, h]

theorem makes_of_not_accepted (h : s.accepts step = false) : s.makes step = [] := by
  unfold makes
  split
  · simp [h]
  · rfl

theorem makes_of_view_error {e : StoreError} (h : s.view step.session = .error e) : s.makes step = [] := by
  unfold makes
  split
  · next hv =>
      rw [h] at hv
      cases hv
  · rfl

theorem session_of_mem_makes {a : Announcement} (h : a ∈ s.makes step) : a.session = step.session := by
  unfold makes at h
  split at h
  · split at h
    · obtain ⟨event, _, rfl⟩ := List.mem_map.mp h
      rfl
    · cases h
  · cases h

-- What is made in a session is made in one that is there.
theorem isSome_of_mem_makes {a : Announcement} (h : a ∈ s.makes step) (hsession : a.session = some id) :
    (s.session? id).isSome = true := by
  have hstep : step.session = some id := (session_of_mem_makes h).symm.trans hsession
  cases hs : s.session? id with
  | some own => rfl
  | none =>
      have hview : s.view step.session = .error (.unknownSession id) := by
        rw [hstep]
        simp only [view, hs]
      rw [makes_of_view_error hview] at h
      cases h

-- The journal notes the very events that the write holds ready to go out.
theorem makes_of_write {target : String} {f : ObjectId → List Document → Write step.call.Answer}
    {data : Collections} (hw : step.call.write? = some (target, f))
    (hready : step.failing ≠ some step.call.name) (hv : s.view step.session = .ok data) :
    (s.makes step).map Announcement.told =
      (f (.generated step.serial) (data.documents target)).announced target := by
  have hgranted : (s.granted step).view step.session = .ok data := hv
  have haccepts : s.accepts step = (f (.generated step.serial) (data.documents target)).outcome.isOk := by
    rw [accepts, play_of_ready hready, answer_of_write hw]
    exact congrArg Except.isOk (write_outcome hgranted target (f (.generated step.serial)))
  have hmakes : s.makes step = if s.accepts step then
      (f (.generated step.serial) (data.documents target)).announcements step.session target else [] := by
    simp only [makes, hw, hv]
  rw [hmakes, haccepts]
  unfold Write.announced
  cases (f (.generated step.serial) (data.documents target)).outcome with
  | ok answer => simp [Write.announcements, eventsOf, Announcement.told, Except.isOk, Except.toBool]
  | error e => rfl

theorem accepts_of_failing (h : step.failing = some step.call.name) : s.accepts step = false := by
  cases haccepts : s.accepts step with
  | false => rfl
  | true => exact absurd h (ready_of_accepts haccepts)

-- A step that writes nothing leaves a session as it is, ends it or starts it.
theorem session?_next_of_not_write {own : Session} (hw : step.call.write? = none)
    (hown : (s.next step).session? id = some own) :
    s.session? id = some own ∨ (own.events = [] ∧ s.sessionsStarted ≤ id.serial) := by
  by_cases hf : step.failing = some step.call.name
  · rw [next_of_failing hf] at hown
    exact .inl hown
  rw [next_of_ready hf] at hown
  have hmeeting : (s.meeting step).session? id = s.session? id := rfl
  by_cases hstart : step.call = .startSession
  · rw [hstart] at hown
    simp only [answer, session?_startSession, hmeeting] at hown
    cases hold : s.session? id with
    | some old => exact .inl (by rwa [hold, Option.some_or] at hown)
    | none =>
        rw [hold, Option.none_or] at hown
        split at hown
        · next hnew =>
            obtain rfl := Option.some.inj hown
            exact .inr ⟨rfl, Nat.le_of_eq (congrArg SessionId.serial hnew).symm⟩
        · cases hown
  by_cases hends : step.Ends id
  · -- Where the session is there it is taken away, and else nothing is.
    have hgone : ((s.meeting step).dropSession id).session? id ≠ some own := by
      rw [session?_dropSession, if_pos rfl]
      exact (Option.some_ne_none own).symm
    rcases hends with hcall | hcall
    · rw [hcall] at hown
      simp only [answer, commit] at hown
      split at hown
      · exact .inl hown
      · exact absurd ((session?_publish _ _ id).symm.trans hown) hgone
    · rw [hcall] at hown
      simp only [answer, abort] at hown
      split at hown
      · exact .inl hown
      · exact absurd hown hgone
  · refine .inl ?_
    rwa [session?_answer_of_keep (fun hwrite => ?_) (fun he => hends (.inl he)) (fun he => hends (.inr he))
      (fun he => absurd he hstart)] at hown
    rw [hw] at hwrite
    cases hwrite

end

end Store

-- What a journal has to do with the store that it is kept beside.
structure Journal.Accounts (j : Journal) (s : Store) : Prop where
  numbered : s.Numbered
  known : ∀ a ∈ j.made, ∀ id, a.session = some id → id.serial < s.sessionsStarted
  -- A session that is on holds back what the journal says was made in it.
  held : ∀ id own, s.session? id = some own → own.events = (j.madeIn id).map Announcement.told
  aborted : ∀ id ∈ j.aborted, s.Ended id
  published : ∀ a ∈ j.published, ∀ id, a.session = some id → s.Ended id ∧ id ∉ j.aborted

namespace Journal

section

variable {j : Journal} {s t : Store} {step : Step} {id : SessionId}

theorem madeIn_after (j : Journal) (s : Store) (step : Step) (id : SessionId) :
    (j.after s step).madeIn id = j.madeIn id ++ (s.makes step).filter (·.session == some id) := by
  simp only [madeIn, after, List.filter_append]

theorem madeIn_after_of_ne (h : step.session ≠ some id) : (j.after s step).madeIn id = j.madeIn id := by
  have hnone : (s.makes step).filter (·.session == some id) = [] := by
    refine List.filter_eq_nil_iff.mpr fun a ha => ?_
    rw [Store.session_of_mem_makes ha]
    simpa using h
  rw [madeIn_after, hnone, List.append_nil]

theorem madeIn_after_self (h : step.session = some id) :
    (j.after s step).madeIn id = j.madeIn id ++ s.makes step := by
  have hall : (s.makes step).filter (·.session == some id) = s.makes step := by
    refine List.filter_eq_self.mpr fun a ha => ?_
    rw [Store.session_of_mem_makes ha]
    simpa using h
  rw [madeIn_after, hall]

theorem madeIn_after_of_not_write (h : step.call.write? = none) :
    (j.after s step).madeIn id = j.madeIn id := by
  rw [madeIn_after, Store.makes_of_not_write h]
  exact List.append_nil _

-- What is published was made in no session or in the one that is committed.
theorem mem_publishes {a : Announcement} (h : a ∈ j.publishes s step) :
    a.session = none ∨
      ∃ id, a.session = some id ∧ step.call = .commitTransaction id ∧ s.accepts step = true := by
  unfold publishes at h
  split at h
  · next id hcommits =>
      split at h
      · next haccepts =>
          have hsession := (List.mem_filter.mp h).2
          exact .inr ⟨id, by simpa using hsession, Store.commits?_eq_some.mp hcommits, haccepts⟩
      · cases h
  · next hsession => exact .inl ((Store.session_of_mem_makes h).trans hsession)
  · cases h

theorem mem_aborted_after : id ∈ (j.after s step).aborted ↔
    id ∈ j.aborted ∨ (s.accepts step = true ∧ step.call = .abortTransaction id) := by
  simp only [after, List.mem_append]
  refine or_congr Iff.rfl ?_
  split
  · next h => simp [h, Call.aborts?_eq_some]
  · next h => simp [h]

theorem Accounts.of_sessions (h : j.Accounts s) (hsessions : t.sessions = s.sessions)
    (hstarted : t.sessionsStarted = s.sessionsStarted) : j.Accounts t := by
  have hsame : ∀ id, t.session? id = s.session? id := fun id => by rw [Store.session?, hsessions]; rfl
  have hended : ∀ id, s.Ended id → t.Ended id := fun id hid => by
    rw [Store.Ended, hstarted, hsame]
    exact hid
  refine ⟨fun id hid => ?_, ?_, fun id own hown => ?_, fun id hid => ?_, fun a ha id hid => ?_⟩
  · rw [hsame]
    exact h.numbered id (hstarted ▸ hid)
  · rw [hstarted]
    exact h.known
  · exact h.held id own (hsame id ▸ hown)
  · exact hended id (h.aborted id hid)
  · exact ⟨hended id (h.published a ha id hid).1, (h.published a ha id hid).2⟩

theorem Accounts.held_next (h : j.Accounts s) {own : Session} (hown : (s.next step).session? id = some own) :
    own.events = ((j.after s step).madeIn id).map Announcement.told := by
  cases hw : step.call.write? with
  | none =>
      rw [madeIn_after_of_not_write hw]
      rcases Store.session?_next_of_not_write hw hown with hold | ⟨hnew, hle⟩
      · exact h.held id own hold
      · -- Nothing has been made in a session that has not been there before.
        have hnone : j.madeIn id = [] := by
          refine List.filter_eq_nil_iff.mpr fun a ha hsession => ?_
          have hlt := h.known a ha id (by simpa using hsession)
          exact absurd hlt (Nat.not_lt.mpr hle)
        rw [hnew, hnone]
        rfl
  | some write =>
      obtain ⟨target, f⟩ := write
      by_cases hf : step.failing = some step.call.name
      · rw [Store.next_of_failing hf] at hown
        rw [madeIn_after, Store.makes_of_not_accepted (Store.accepts_of_failing hf)]
        exact (h.held id own hown).trans (by rw [List.filter_nil, List.append_nil])
      · rw [Store.next_of_write hw hf] at hown
        have hgranted : (s.granted step).session? id = s.session? id := rfl
        by_cases hsession : step.session = some id
        · rw [madeIn_after_self hsession, List.map_append]
          rw [hsession] at hown
          cases hold : s.session? id with
          | none =>
              rw [Store.write_of_absent (hgranted.trans hold), hgranted, hold] at hown
              cases hown
          | some old =>
              have hv : s.view step.session = .ok old.data := by
                rw [hsession]
                simp only [Store.view, hold]
              rw [Store.write_some (hgranted.trans hold), Store.session?_setSession, if_pos rfl, hgranted,
                hold, Option.map_some] at hown
              obtain rfl := Option.some.inj hown
              rw [Store.makes_of_write hw hf hv, ← h.held id old hold]
        · rw [Store.session?_write_of_ne _ _ hsession, hgranted] at hown
          rw [madeIn_after_of_ne hsession]
          exact h.held id own hown

-- One step keeps the journal in accord with the store.
theorem Accounts.next (h : j.Accounts s) (step : Step) : (j.after s step).Accounts (s.next step) := by
  have hthere (id : SessionId) (haccepts : s.accepts step = true) (hends : step.Ends id) :
      ¬ s.Ended id := by
    intro hended
    have hsome := Store.isSome_of_accepts haccepts hends
    rw [hended.2] at hsome
    cases hsome
  refine ⟨h.numbered.next step, fun a ha id hid => ?_, fun _ _ => h.held_next, fun id hid => ?_,
    fun a ha id hid => ?_⟩
  · refine Nat.lt_of_lt_of_le ?_ (Store.sessionsStarted_le_next s step)
    rcases List.mem_append.mp ha with hold | hnew
    · exact h.known a hold id hid
    · by_contra hge
      have hsome := Store.isSome_of_mem_makes hnew hid
      rw [h.numbered id (Nat.le_of_not_lt hge)] at hsome
      cases hsome
  · rcases mem_aborted_after.mp hid with hold | ⟨haccepts, hcall⟩
    · exact (h.aborted id hold).next step
    · exact Store.ended_next h.numbered haccepts (.inr hcall)
  · rw [mem_aborted_after]
    rcases List.mem_append.mp ha with hold | hnew
    · obtain ⟨hended, hnot⟩ := h.published a hold id hid
      refine ⟨hended.next step, fun haborted => ?_⟩
      rcases haborted with hmem | ⟨haccepts, hcall⟩
      · exact hnot hmem
      · exact hthere id haccepts (.inr hcall) hended
    · rcases mem_publishes hnew with hnone | ⟨committed, hsession, hcall, haccepts⟩
      · rw [hnone] at hid
        cases hid
      · obtain rfl := Option.some.inj (hsession.symm.trans hid)
        refine ⟨Store.ended_next h.numbered haccepts (.inl hcall), fun haborted => ?_⟩
        rcases haborted with hmem | ⟨_, habort⟩
        · exact hthere _ haccepts (.inl hcall) (h.aborted _ hmem)
        · rw [hcall] at habort
          cases habort

-- Nothing goes out but with a write in no session and with a commit.
theorem publishes_of_quiet (hwrite : ¬ (step.call.isWrite = true ∧ step.session = none))
    (hcommit : ∀ id, step.call ≠ .commitTransaction id) : j.publishes s step = [] := by
  unfold publishes
  split
  · next id hcommits => exact absurd (Store.commits?_eq_some.mp hcommits) (hcommit id)
  · next hsession =>
      refine Store.makes_of_not_write ?_
      cases hw : step.call.write? with
      | none => rfl
      | some write => exact absurd ⟨by rw [Call.isWrite_eq, hw]; rfl, hsession⟩ hwrite
  · rfl

theorem publishes_of_not_accepted (h : s.accepts step = false) : j.publishes s step = [] := by
  unfold publishes
  split
  · rw [h]
    rfl
  · exact Store.makes_of_not_accepted h
  · rfl

theorem publishes_of_commit (hcall : step.call = .commitTransaction id) (h : s.accepts step = true) :
    j.publishes s step = j.madeIn id := by
  simp only [publishes, hcall, Store.commits?, h, if_true]

theorem publishes_of_write (hwrite : step.call.isWrite = true) (hsession : step.session = none) :
    j.publishes s step = s.makes step := by
  have hcommits : Store.commits? step.call = none := by
    cases hcall : step.call <;> first | rfl | (rw [hcall] at hwrite; cases hwrite)
  simp only [publishes, hcommits, hsession]

-- Subscribers are sent what the journal says is published.
theorem Accounts.sent (h : j.Accounts s) (step : Step) :
    ∃ opened, (s.next step).subscriptions =
      s.subscriptions.map (fun sub =>
        ((j.publishes s step).map Announcement.told).foldl Subscription.receive sub) ++ opened := by
  by_cases hf : step.failing = some step.call.name
  · rw [Store.next_of_failing hf, publishes_of_not_accepted (Store.accepts_of_failing hf)]
    exact ⟨[], by simp [Store.meeting]⟩
  by_cases hwrite : step.call.isWrite = true ∧ step.session = none
  · obtain ⟨target, f, hw⟩ := Call.exists_write hwrite.1
    have hv : s.view step.session = .ok s.committed := by rw [hwrite.2]; rfl
    have hnext := Store.next_of_write (s := s) hw hf
    rw [hwrite.2, Store.write_none] at hnext
    refine ⟨[], ?_⟩
    rw [hnext, Store.publish_subscriptions, publishes_of_write hwrite.1 hwrite.2,
      Store.makes_of_write hw hf hv, List.append_nil]
    rfl
  by_cases hcommit : ∃ id, step.call = .commitTransaction id
  · obtain ⟨id, hcall⟩ := hcommit
    cases hown : s.session? id with
    | some own =>
        obtain ⟨haccepts, hnext⟩ := Store.next_of_commit hcall hf hown
        refine ⟨[], ?_⟩
        rw [hnext, Store.publish_subscriptions, publishes_of_commit hcall haccepts,
          ← h.held id own hown, List.append_nil]
        rfl
    | none =>
        have hmeeting : (s.meeting step).session? id = none := hown
        have hrefused : s.accepts step = false := by
          cases haccepts : s.accepts step with
          | false => rfl
          | true =>
              have hsome := Store.isSome_of_accepts haccepts (.inl hcall)
              rw [hown] at hsome
              cases hsome
        rw [Store.next_of_ready hf, hcall, publishes_of_not_accepted hrefused]
        simp only [Store.answer, Store.commit, hmeeting]
        exact ⟨[], by simp [Store.meeting]⟩
  · have hnone : ∀ id, step.call ≠ .commitTransaction id := fun id hcall => hcommit ⟨id, hcall⟩
    obtain ⟨opened, hsubs, _⟩ := (Store.quiet_perform (s := s.facing step) hwrite hnone).1
    refine ⟨opened, ?_⟩
    rw [publishes_of_quiet hwrite hnone]
    exact hsubs.trans (by simp [Store.facing])

theorem Accounts.pending_next (h : j.Accounts s) {index : Nat} {name : String} {pending : List Document}
    (hsub : s.subscriptions[index]? = some ⟨name, pending, true⟩) :
    (s.next step).subscriptions[index]? =
      some ⟨name, pending ++ heard name ((j.publishes s step).map Announcement.told), true⟩ := by
  obtain ⟨opened, hsubs⟩ := h.sent step
  obtain ⟨hlt, _⟩ := List.getElem?_eq_some_iff.mp hsub
  rw [hsubs, List.getElem?_append_left (by simpa using hlt), List.getElem?_map, hsub, Option.map_some,
    receive_all]

theorem Accounts.along (h : j.Accounts s) (steps : List Step) :
    (j.along s steps).Accounts (s.run steps) := by
  induction steps generalizing j s with
  | nil => exact h
  | cons step rest ih => exact ih (h.next step)

theorem Accounts.opened (h : j.Accounts s) : j.opened.Accounts s :=
  ⟨h.numbered, h.known, h.held, h.aborted, by simp [Journal.opened]⟩

theorem accounts_of_no_session (hfresh : ∀ id, s.session? id = none) : ({} : Journal).Accounts s := by
  refine ⟨fun id _ => hfresh id, by simp, fun id own hown => ?_, by simp, by simp⟩
  rw [hfresh id] at hown
  cases hown

end

end Journal

end DocStore
