import DocStore.Proofs.Store.Transaction

namespace DocStore

theorem Call.drop?_of_write {c : Call} {name : String} {f : ObjectId → List Document → Write c.Answer}
    (h : c.write? = some (name, f)) : c.drop? = none := by
  cases c <;> first | rfl | cases h

-- Whether a step neither drops a collection nor commits a session.
def Step.Plain (step : Step) : Prop := step.call.drop? = none ∧ ∀ id, step.call ≠ .commitTransaction id

theorem Step.plain_of_isWrite {step : Step} (h : step.call.isWrite = true) : step.Plain := by
  obtain ⟨name, f, hw⟩ := Call.exists_write h
  refine ⟨Call.drop?_of_write hw, fun id he => ?_⟩
  rw [he] at h
  cases h

-- The collection that a step writes to.
def Step.target? (step : Step) : Option String := step.call.write?.map (·.1)

-- The call of a step made in no session.
def Step.direct (step : Step) : Step := { step with session := none }

-- The writes that one session makes, or that are made in none, as they would be
-- made in no session.
def writesOf (owner : Option SessionId) (steps : List Step) : List Step :=
  (steps.filter fun step => step.call.isWrite && step.session == owner).map Step.direct

theorem writesOf_append (owner : Option SessionId) (steps others : List Step) :
    writesOf owner (steps ++ others) = writesOf owner steps ++ writesOf owner others := by
  simp [writesOf]

theorem writesOf_cons_of_pos {owner : Option SessionId} {step : Step} (rest : List Step)
    (h : step.call.isWrite = true ∧ step.session = owner) :
    writesOf owner (step :: rest) = step.direct :: writesOf owner rest := by
  simp [writesOf, h]

theorem writesOf_cons_of_neg {owner : Option SessionId} {step : Step} (rest : List Step)
    (h : ¬ (step.call.isWrite = true ∧ step.session = owner)) :
    writesOf owner (step :: rest) = writesOf owner rest := by
  have hskip : (step.call.isWrite && step.session == owner) = false := by simpa using h
  simp only [writesOf, List.filter_cons, hskip]
  rfl

-- Whether all steps are writes made in no session.
def DirectWrites (steps : List Step) : Prop :=
  ∀ step ∈ steps, step.call.isWrite = true ∧ step.session = none

theorem directWrites_writesOf (owner : Option SessionId) (steps : List Step) :
    DirectWrites (writesOf owner steps) := by
  intro step hstep
  obtain ⟨made, hmade, rfl⟩ := List.mem_map.mp hstep
  have hwrite := (List.mem_filter.mp hmade).2
  simp only [Bool.and_eq_true] at hwrite
  exact ⟨hwrite.1, rfl⟩

theorem DirectWrites.append {steps others : List Step} (h : DirectWrites steps) (h' : DirectWrites others) :
    DirectWrites (steps ++ others) := by
  intro step hstep
  rcases List.mem_append.mp hstep with hleft | hright
  · exact h step hleft
  · exact h' step hright

-- In a collection that one party has to itself there are no writes of another one.
theorem filter_writesOf_of_ne {owner other : Option SessionId} {steps : List Step} {name : String}
    (h : ∀ step ∈ steps, step.target? = some name → step.session = owner) (hne : other ≠ owner) :
    (writesOf other steps).filter (fun step => step.target? == some name) = [] := by
  simp only [List.filter_eq_nil_iff, beq_iff_eq]
  intro step hstep htarget
  obtain ⟨made, hmade, rfl⟩ := List.mem_map.mp hstep
  obtain ⟨hmem, hwrite⟩ := List.mem_filter.mp hmade
  simp only [Bool.and_eq_true, beq_iff_eq] at hwrite
  exact hne (hwrite.2.symm.trans (h made hmem htarget))

namespace Store

section

variable {s t : Store} {step : Step} {steps : List Step} {id : SessionId}

theorem committed_next_of_write {name : String} {f : ObjectId → List Document → Write step.call.Answer}
    (hw : step.call.write? = some (name, f)) (hsession : step.session = none) (s : Store) :
    (s.next step).committed =
      if step.failing = some step.call.name then s.committed
      else s.committed.insert name (f (.generated step.serial) (s.documents name)).documents := by
  split
  · next hf => rw [next_of_failing hf]; rfl
  · next hf =>
      rw [next_of_ready hf, answer_of_write hw, hsession, write_none, publish_committed]
      rfl

theorem committed_next_of_plain (h : step.Plain)
    (hwrite : ¬ (step.call.isWrite = true ∧ step.session = none)) :
    (s.next step).committed = s.committed :=
  (quiet_perform (s := s.facing step) hwrite h.2).2.mpr (not_drops h.1)

-- Where nothing is committed nor dropped, only the writes in no session count.
theorem committed_run_of_plain (h : s.committed = t.committed) (hsteps : ∀ step ∈ steps, step.Plain) :
    (s.run steps).committed = (t.run (writesOf none steps)).committed := by
  induction steps generalizing s t with
  | nil => exact h
  | cons step rest ih =>
      obtain ⟨hplain, hrest⟩ := List.forall_mem_cons.mp hsteps
      by_cases hwrite : step.call.isWrite = true ∧ step.session = none
      · have hdirect : step.direct = step := by rw [Step.direct, ← hwrite.2]
        obtain ⟨name, f, hw⟩ := Call.exists_write hwrite.1
        have hnext : (s.next step).committed = (t.next step).committed := by
          rw [committed_next_of_write hw hwrite.2, committed_next_of_write hw hwrite.2]
          simp only [documents, h]
        rw [writesOf_cons_of_pos rest hwrite, hdirect]
        exact ih hnext hrest
      · rw [writesOf_cons_of_neg rest hwrite]
        exact ih ((committed_next_of_plain hplain hwrite).trans h) hrest

-- What writes in no session make of what is committed depends on nothing else.
theorem committed_run_congr (h : s.committed = t.committed) (hsteps : DirectWrites steps) :
    (s.run steps).committed = (t.run steps).committed := by
  have hplain : ∀ step ∈ steps, step.Plain := fun step hstep => Step.plain_of_isWrite (hsteps step hstep).1
  rw [committed_run_of_plain h hplain, committed_run_of_plain rfl hplain]

-- In one collection only the writes to it count.
theorem documents_run_filter (name : String) (h : s.documents name = t.documents name)
    (hsteps : DirectWrites steps) :
    (s.run steps).documents name =
      (t.run (steps.filter fun step => step.target? == some name)).documents name := by
  induction steps generalizing s t with
  | nil => exact h
  | cons step rest ih =>
      obtain ⟨⟨hwrite, hsession⟩, hrest⟩ := List.forall_mem_cons.mp hsteps
      obtain ⟨target, f, hw⟩ := Call.exists_write hwrite
      by_cases htarget : target = name
      · subst htarget
        have hnext : (s.next step).documents target = (t.next step).documents target := by
          simp only [documents, committed_next_of_write hw hsession] at h ⊢
          split
          · exact h
          · rw [Collections.documents_insert_self, Collections.documents_insert_self, h]
        simpa [Step.target?, hw] using ih hnext hrest
      · have hnext : (s.next step).documents name = t.documents name := by
          simp only [documents, committed_next_of_write hw hsession] at h ⊢
          split
          · exact h
          · rw [Collections.documents_insert, if_neg htarget, h]
        simpa [Step.target?, hw, htarget] using ih hnext hrest

-- A session keeps its snapshot but for what it writes itself.
theorem session?_next_of_keep (hwrite : ¬ (step.call.isWrite = true ∧ step.session = some id))
    (hends : ¬ step.Ends id) (hlt : id.serial < s.sessionsStarted) :
    (s.next step).session? id = s.session? id := by
  by_cases hf : step.failing = some step.call.name
  · rw [next_of_failing hf]
    rfl
  · rw [next_of_ready hf]
    refine session?_answer_of_keep (s := s.meeting step) (fun hw hsession => ?_) (fun he => hends (.inl he))
      (fun he => hends (.inr he)) fun _ he => ?_
    · rw [← Call.isWrite_eq] at hw
      exact hwrite ⟨hw, hsession⟩
    · rw [he] at hlt
      exact absurd hlt (Nat.lt_irrefl _)

-- Along a run in which it is not ended, a session's snapshot comes to be what its
-- own writes would make, in no session, of what it was.
theorem snapshot_run {events : List (String × Document)} (hs : s.session? id = some ⟨t.committed, events⟩)
    (hlt : id.serial < s.sessionsStarted) (hends : ∀ step ∈ steps, ¬ step.Ends id) :
    ∃ events, (s.run steps).session? id = some ⟨(t.run (writesOf (some id) steps)).committed, events⟩ := by
  induction steps generalizing s t events with
  | nil => exact ⟨events, hs⟩
  | cons step rest ih =>
      obtain ⟨hstep, hrest⟩ := List.forall_mem_cons.mp hends
      have hlt' : id.serial < (s.next step).sessionsStarted :=
        Nat.lt_of_lt_of_le hlt (sessionsStarted_le_next s step)
      by_cases hwrite : step.call.isWrite = true ∧ step.session = some id
      · obtain ⟨name, f, hw⟩ := Call.exists_write hwrite.1
        have hshadows : Shadows id events (s.facing step) (t.facing step) := ⟨hs, rfl, rfl⟩
        obtain ⟨_, more, hnext, _⟩ :=
          hshadows.perform (Call.takesSession_of_write hw) (Call.drop?_of_write hw)
        rw [← hwrite.2] at hnext
        rw [writesOf_cons_of_pos rest hwrite]
        exact ih (s := s.next step) (t := t.next step.direct) hnext.session hlt' hrest
      · rw [writesOf_cons_of_neg rest hwrite]
        exact ih ((session?_next_of_keep hwrite hstep hlt).trans hs) hlt' hrest

end

theorem isSome_of_accepts_write {s : Store} {step : Step} {id : SessionId} (h : s.accepts step = true)
    (hwrite : step.call.isWrite = true) (hsession : step.session = some id) :
    (s.session? id).isSome = true := by
  obtain ⟨name, f, hw⟩ := Call.exists_write hwrite
  cases hs : s.session? id with
  | some own => rfl
  | none =>
      have hrefused : ((s.meeting step).answer step.session step.call).1 = .error (.unknownSession id) := by
        rw [answer_of_write hw, hsession, write_of_absent]
        exact hs
      rw [accepts, play_of_ready (ready_of_accepts h), hrefused] at h
      cases h

-- Where a session is not there at any time, no write is made in it.
theorem writesOf_eq_nil {s : Store} {id : SessionId} {steps : List Step} (h : s.acceptsAll steps = true)
    (habsent : ∀ before step after, steps = before ++ step :: after → (s.run before).session? id = none) :
    writesOf (some id) steps = [] := by
  simp only [writesOf, List.map_eq_nil_iff, List.filter_eq_nil_iff, Bool.and_eq_true, beq_iff_eq]
  intro step hstep ⟨hwrite, hsession⟩
  obtain ⟨before, after, hsplit⟩ := List.append_of_mem hstep
  have hsome := isSome_of_accepts_write (accepts_of_acceptsAll (hsplit ▸ h)) hwrite hsession
  rw [habsent before step after hsplit] at hsome
  cases hsome

end Store

end DocStore
