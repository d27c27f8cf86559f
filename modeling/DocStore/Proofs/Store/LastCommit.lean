import DocStore.Proofs.Store.Direct

namespace DocStore

namespace Store

-- Where in a run a session is started and where it is committed.
structure Span (s : Store) (id : SessionId) (steps : List Step) where
  before : List Step
  start : Step
  during : List Step
  commit : Step
  after : List Step
  steps_eq : steps = before ++ start :: (during ++ commit :: after)
  start_call : start.call = .startSession
  id_eq : id = ⟨(s.run before).sessionsStarted⟩
  commit_call : commit.call = .commitTransaction id

-- Whether nothing is dropped and no session is committed but the two.
def CommitsOnly (a b : SessionId) (steps : List Step) : Prop :=
  ∀ step ∈ steps, step.call.drop? = none ∧ ∀ id, step.call = .commitTransaction id → id = a ∨ id = b

theorem exists_between {α : Type} {before after before' after' : List α} {x x' : α}
    (h : before ++ x :: after = before' ++ x' :: after') (hlt : before.length < before'.length) :
    ∃ between, before' = before ++ x :: between ∧ after = between ++ x' :: after' := by
  rcases List.append_eq_append_iff.mp h with ⟨middle, hbefore, hrest⟩ | ⟨middle, hbefore, _⟩
  · cases middle with
    | nil => simp [hbefore] at hlt
    | cons y between =>
        obtain ⟨rfl, hafter⟩ := List.cons.inj hrest
        exact ⟨between, hbefore, hafter⟩
  · have hlength := congrArg List.length hbefore
    rw [List.length_append] at hlength
    omega

theorem committed_next_of_commit {s : Store} {step : Step} {id : SessionId} {data : Collections}
    {events : List (String × Document)} (haccepts : s.accepts step = true)
    (hcall : step.call = .commitTransaction id) (hs : s.session? id = some ⟨data, events⟩) :
    (s.next step).committed = data := by
  rw [(next_of_commit hcall (ready_of_accepts haccepts) hs).2, publish_committed]

namespace Span

variable {s : Store} {id other : SessionId} {steps : List Step}

-- The steps in front of the commit.
def uncommitted (span : Span s id steps) : List Step := span.before ++ span.start :: span.during

def startedAt (span : Span s id steps) : Nat := span.before.length

def committedAt (span : Span s id steps) : Nat := span.uncommitted.length

theorem steps_eq_uncommitted (span : Span s id steps) :
    steps = span.uncommitted ++ span.commit :: span.after := by
  conv_lhs => rw [span.steps_eq]
  simp [uncommitted]

theorem before_subset (span : Span s id steps) : span.before ⊆ steps := by
  intro step hstep
  rw [span.steps_eq]
  simp [hstep]

theorem during_subset (span : Span s id steps) : span.during ⊆ steps := by
  intro step hstep
  rw [span.steps_eq]
  simp [hstep]

theorem after_subset (span : Span s id steps) : span.after ⊆ steps := by
  intro step hstep
  rw [span.steps_eq]
  simp [hstep]

theorem committedAt_eq_add (span : Span s id steps) :
    span.committedAt = span.startedAt + (span.during.length + 1) := by
  simp [committedAt, uncommitted, startedAt]

theorem session?_started (span : Span s id steps) (hn : s.Numbered) (h : s.acceptsAll steps = true) :
    ((s.run span.before).next span.start).session? id = some ⟨(s.run span.before).committed, []⟩ ∧
      id.serial < ((s.run span.before).next span.start).sessionsStarted := by
  have haccepts := accepts_of_acceptsAll (span.steps_eq ▸ h)
  have hserial : id.serial = (s.run span.before).sessionsStarted := congrArg SessionId.serial span.id_eq
  have hnone : ((s.run span.before).meeting span.start).session? id = none :=
    hn.run span.before id (Nat.le_of_eq hserial.symm)
  have hid : id = ⟨((s.run span.before).meeting span.start).sessionsStarted⟩ := span.id_eq
  rw [next_of_ready (ready_of_accepts haccepts), span.start_call]
  refine ⟨?_, ?_⟩
  · simp only [answer]
    rw [session?_startSession, hnone, if_pos hid]
    rfl
  · exact Nat.lt_succ_of_le (Nat.le_of_eq hserial)

-- While a session is on, no step ends it.
theorem not_ends_during (span : Span s id steps) (hn : s.Numbered) (h : s.acceptsAll steps = true) :
    ∀ step ∈ span.during, ¬ step.Ends id := by
  intro step hstep hends
  obtain ⟨first, last, hduring⟩ := List.append_of_mem hstep
  have hsteps : steps =
      (span.before ++ span.start :: first) ++ step :: (last ++ span.commit :: span.after) := by
    conv_lhs => rw [span.steps_eq, hduring]
    simp
  exact ends_once hn (hsteps ▸ h) hends (Or.inl span.commit_call)

-- A commit after which nothing is committed nor dropped leaves what was there when
-- its session was started, with its own writes and those in no session after it.
theorem committed_run (span : Span s id steps) (hn : s.Numbered) (h : s.acceptsAll steps = true)
    (hafter : ∀ step ∈ span.after, step.Plain) :
    (s.run steps).committed =
      ((s.run span.before).run (writesOf (some id) span.during ++ writesOf none span.after)).committed := by
  -- The commit publishes the snapshot, which its own writes have made of what the
  -- session was started on; from then on only writes in no session count.
  obtain ⟨hstarted, hlt⟩ := span.session?_started hn h
  obtain ⟨events, hsnapshot⟩ := snapshot_run hstarted hlt (span.not_ends_during hn h)
  have haccepts := accepts_of_acceptsAll (span.steps_eq_uncommitted ▸ h)
  rw [uncommitted, run_append, run_cons] at haccepts
  have hcommitted := committed_next_of_commit haccepts span.commit_call hsnapshot
  conv_lhs => rw [span.steps_eq_uncommitted, uncommitted, run_append, run_append, run_cons, run_cons]
  rw [run_append]
  exact committed_run_of_plain hcommitted hafter

-- Outside its span, a session makes no write that is let in.
theorem writesOf_eq (span : Span s id steps) (hn : s.Numbered) (h : s.acceptsAll steps = true) :
    writesOf (some id) steps = writesOf (some id) span.during := by
  have hsteps := span.steps_eq
  have hserial : id.serial = (s.run span.before).sessionsStarted := congrArg SessionId.serial span.id_eq
  have hbefore : writesOf (some id) span.before = [] := by
    refine writesOf_eq_nil (s := s) ?_ fun first step last hsplit => ?_
    · rw [hsteps, acceptsAll_append, Bool.and_eq_true] at h
      exact h.1
    · refine hn.run first id ?_
      rw [hserial, hsplit, run_append]
      exact sessionsStarted_le_run _ _
  have hafter : writesOf (some id) span.after = [] := by
    have hcommit := span.steps_eq_uncommitted
    have hended := ended_next (hn.run _) (accepts_of_acceptsAll (hcommit ▸ h)) (.inl span.commit_call)
    refine writesOf_eq_nil (s := (s.run span.uncommitted).next span.commit) ?_
      fun first step last hsplit => (hended.run first).2
    rw [hcommit, acceptsAll_append, acceptsAll, Bool.and_eq_true, Bool.and_eq_true] at h
    exact h.2.2
  have hstart : ¬ (span.start.call.isWrite = true ∧ span.start.session = some id) := by
    simp [span.start_call, Call.isWrite]
  have hend : ¬ (span.commit.call.isWrite = true ∧ span.commit.session = some id) := by
    simp [span.commit_call, Call.isWrite]
  conv_lhs => rw [hsteps, writesOf_append, writesOf_cons_of_neg _ hstart, writesOf_append,
    writesOf_cons_of_neg _ hend, hbefore, hafter]
  simp

-- The session is committed in one place.
theorem committedAt_eq (span : Span s id steps) (hn : s.Numbered) (h : s.acceptsAll steps = true)
    {before after : List Step} {step : Step} (hsteps : steps = before ++ step :: after)
    (hends : step.Ends id) : before.length = span.committedAt := by
  have hcommit := span.steps_eq_uncommitted
  -- Of two ends at different places the later one would not be accepted.
  rcases Nat.lt_trichotomy before.length span.committedAt with hlt | heq | hgt
  · obtain ⟨between, _, hafter⟩ := exists_between (hsteps.symm.trans hcommit) hlt
    exact absurd (Or.inl span.commit_call) (ends_once hn (hafter ▸ hsteps ▸ h) hends)
  · exact heq
  · obtain ⟨between, _, hafter⟩ := exists_between (hcommit.symm.trans hsteps) hgt
    exact absurd hends (ends_once hn (hafter ▸ hcommit ▸ h) (Or.inl span.commit_call))

-- What comes between the commit of one session and the start of another one.
def upTo {other : SessionId} (span : Span s id steps) (later : Span s other steps) : List Step :=
  later.before.drop (span.committedAt + 1)

end Span

section

variable {s : Store} {a b : SessionId} {steps : List Step} {A : Span s a steps} {B : Span s b steps}

-- Of the writes of one party those that last, where `b` is committed after `a`.
-- Those of `b` do, and those of `a` if it was committed before `b` was started.
-- Those in no session do if `b` found them when it was started, or if they come
-- after its commit.
def lasting (A : Span s a steps) (B : Span s b steps) : Option SessionId → List Step
  | none =>
    if A.committedAt < B.startedAt then writesOf none (A.before ++ A.upTo B ++ B.after)
    else writesOf none (B.before ++ B.after)
  | some id =>
    if id = b then writesOf (some b) steps
    else if id = a ∧ A.committedAt < B.startedAt then writesOf (some a) steps
    else []

-- All writes that last, of every party, in the order in which they come.
def lastingWrites (A : Span s a steps) (B : Span s b steps) : List Step :=
  (if A.committedAt < B.startedAt then
    writesOf none A.before ++ writesOf (some a) A.during ++ writesOf none (A.upTo B)
  else writesOf none B.before) ++
    (writesOf (some b) B.during ++ writesOf none B.after)

-- The span of a session that is committed before another one is started.
def Span.within (A : Span s a steps) (B : Span s b steps) (hlt : A.committedAt < B.startedAt) :
    Span s a B.before where
  before := A.before
  start := A.start
  during := A.during
  commit := A.commit
  after := A.upTo B
  steps_eq := by
    obtain ⟨between, hbefore, _⟩ := exists_between (A.steps_eq_uncommitted.symm.trans B.steps_eq) hlt
    have hbetween : A.upTo B = between := by
      rw [Span.upTo, hbefore, List.append_cons]
      exact List.drop_left' (by simp [Span.committedAt])
    rw [hbetween, hbefore]
    simp [Span.uncommitted]
  start_call := A.start_call
  id_eq := A.id_eq
  commit_call := A.commit_call

-- No commit stands in a part of the run that has neither of the two.
theorem plain_of_apart (hn : s.Numbered) (h : s.acceptsAll steps = true) (A : Span s a steps)
    (B : Span s b steps) (hsteps : CommitsOnly a b steps) {before part after : List Step}
    (hsplit : steps = before ++ (part ++ after))
    (hA : A.committedAt < before.length ∨ before.length + part.length ≤ A.committedAt)
    (hB : B.committedAt < before.length ∨ before.length + part.length ≤ B.committedAt) :
    ∀ step ∈ part, step.Plain := by
  intro step hstep
  obtain ⟨hd, hcommit⟩ := hsteps step (by simp [hsplit, hstep])
  refine ⟨hd, fun id hcall => ?_⟩
  obtain ⟨first, last, hpart⟩ := List.append_of_mem hstep
  have hplace : steps = (before ++ first) ++ step :: (last ++ after) := by simp [hsplit, hpart]
  have hlength : part.length = first.length + (last.length + 1) := by simp [hpart]
  rcases hcommit id hcall with rfl | rfl
  · have hat := A.committedAt_eq hn h hplace (.inl hcall)
    rw [List.length_append] at hat
    omega
  · have hat := B.committedAt_eq hn h hplace (.inl hcall)
    rw [List.length_append] at hat
    omega

section

variable (hn : s.Numbered) (h : s.acceptsAll steps = true) (hsteps : CommitsOnly a b steps)

include hn h hsteps

-- What `b` finds when it is started after the commit of `a`.
theorem committed_run_before_of_lt (hlt : A.committedAt < B.startedAt) :
    (s.run B.before).committed =
      (s.run (writesOf none A.before ++
        (writesOf (some a) A.during ++ writesOf none (A.upTo B)))).committed := by
  have hA := A.committedAt_eq_add
  have hB := B.committedAt_eq_add
  have hfirst : ∀ step ∈ A.before, step.Plain := by
    have hsplit : steps = [] ++ (A.before ++ A.start :: (A.during ++ A.commit :: A.after)) := A.steps_eq
    have hplace : ([] : List Step).length + A.before.length = A.startedAt := Nat.zero_add _
    exact plain_of_apart hn h A B hsteps hsplit (by omega) (by omega)
  have hbetween : ∀ step ∈ A.upTo B, step.Plain := by
    have hsplit : steps = (A.uncommitted ++ [A.commit]) ++
        (A.upTo B ++ B.start :: (B.during ++ B.commit :: B.after)) := by
      conv_lhs => rw [B.steps_eq, (A.within B hlt).steps_eq_uncommitted]
      simp [Span.within, Span.uncommitted]
    have hlength : (A.uncommitted ++ [A.commit]).length = A.committedAt + 1 := by simp [Span.committedAt]
    have hplace : (A.upTo B).length = B.startedAt - (A.committedAt + 1) := by
      simp [Span.upTo, Span.startedAt]
    exact plain_of_apart hn h A B hsteps hsplit (by omega) (by omega)
  have hbefore : s.acceptsAll B.before = true := by
    rw [B.steps_eq, acceptsAll_append, Bool.and_eq_true] at h
    exact h.1
  have hwrites : DirectWrites (writesOf (some a) A.during ++ writesOf none (A.upTo B)) :=
    (directWrites_writesOf _ _).append (directWrites_writesOf _ _)
  have hstart : (s.run A.before).committed = (s.run (writesOf none A.before)).committed :=
    committed_run_of_plain rfl hfirst
  rw [run_append s]
  exact ((A.within B hlt).committed_run hn hbefore hbetween).trans (committed_run_congr hstart hwrites)

-- What `b` finds when it is started before that.
theorem committed_run_before_of_not_lt (hlt : ¬ A.committedAt < B.startedAt) :
    (s.run B.before).committed = (s.run (writesOf none B.before)).committed := by
  have hB := B.committedAt_eq_add
  have hsplit : steps = [] ++ (B.before ++ B.start :: (B.during ++ B.commit :: B.after)) := B.steps_eq
  have hplace : ([] : List Step).length + B.before.length = B.startedAt := Nat.zero_add _
  exact committed_run_of_plain rfl
    (plain_of_apart hn h A B hsteps hsplit (by omega) (by omega))

-- Where `b` is committed last, what is committed in the end is what the writes that
-- last would leave if they were made one after the other in no session.
theorem committed_run_lastingWrites (hlast : A.committedAt < B.committedAt) :
    (s.run steps).committed = (s.run (lastingWrites A B)).committed := by
  have hafter : ∀ step ∈ B.after, step.Plain := by
    have hsplit : steps = (B.uncommitted ++ [B.commit]) ++ (B.after ++ []) := by
      conv_lhs => rw [B.steps_eq_uncommitted]
      simp
    have hlength : (B.uncommitted ++ [B.commit]).length = B.committedAt + 1 := by simp [Span.committedAt]
    exact plain_of_apart hn h A B hsteps hsplit (by omega) (by omega)
  have hwrites : DirectWrites (writesOf (some b) B.during ++ writesOf none B.after) :=
    (directWrites_writesOf _ _).append (directWrites_writesOf _ _)
  rw [B.committed_run hn h hafter, lastingWrites, run_append s]
  refine committed_run_congr ?_ hwrites
  split
  · next hlt => exact (List.append_assoc _ _ _).symm ▸ committed_run_before_of_lt hn h hsteps hlt
  · next hlt => exact committed_run_before_of_not_lt hn h hsteps hlt

end

-- In a collection that one party has to itself, the writes that last are that party's.
theorem filter_lastingWrites (hn : s.Numbered) (h : s.acceptsAll steps = true) (hab : a ≠ b) {name : String}
    {owner : Option SessionId} (howner : ∀ step ∈ steps, step.target? = some name → step.session = owner) :
    (lastingWrites A B).filter (fun step => step.target? == some name) =
      (lasting A B owner).filter (fun step => step.target? == some name) := by
  have hpart {part : List Step} (other : Option SessionId) (hsub : part ⊆ steps) (hne : other ≠ owner) :
      (writesOf other part).filter (fun step => step.target? == some name) = [] :=
    filter_writesOf_of_ne (fun step hstep => howner step (hsub hstep)) hne
  have hupTo : A.upTo B ⊆ steps := fun step hstep => B.before_subset (List.mem_of_mem_drop hstep)
  have hA := A.writesOf_eq hn h
  have hB := B.writesOf_eq hn h
  cases owner with
  | none =>
      have hduringA := hpart (some a) A.during_subset (by simp)
      have hduringB := hpart (some b) B.during_subset (by simp)
      by_cases hlt : A.committedAt < B.startedAt
      · simp [lastingWrites, lasting, hlt, writesOf_append, hduringA, hduringB]
      · simp [lastingWrites, lasting, hlt, writesOf_append, hduringB]
  | some id =>
      have hfirst := hpart none A.before_subset (by simp)
      have hbetween := hpart none hupTo (by simp)
      have hbefore := hpart none B.before_subset (by simp)
      have hafter := hpart none B.after_subset (by simp)
      by_cases hb : id = b
      · subst hb
        have hduringA := hpart (some a) A.during_subset (by simpa using hab)
        by_cases hlt : A.committedAt < B.startedAt
        · simp [lastingWrites, lasting, hlt, hB, hfirst, hduringA, hbetween, hafter]
        · simp [lastingWrites, lasting, hlt, hB, hbefore, hafter]
      · have hduringB := hpart (some b) B.during_subset (by simpa using Ne.symm hb)
        by_cases ha : id = a
        · subst ha
          by_cases hlt : A.committedAt < B.startedAt
          · simp [lastingWrites, lasting, hlt, hb, hA, hfirst, hbetween, hduringB, hafter]
          · simp [lastingWrites, lasting, hlt, hb, hbefore, hduringB, hafter]
        · have hduringA := hpart (some a) A.during_subset (by simpa using Ne.symm ha)
          by_cases hlt : A.committedAt < B.startedAt
          · simp [lastingWrites, lasting, hlt, hb, ha, hfirst, hduringA, hbetween, hduringB, hafter]
          · simp [lastingWrites, lasting, hlt, hb, ha, hbefore, hduringB, hafter]

theorem directWrites_lastingWrites (A : Span s a steps) (B : Span s b steps) :
    DirectWrites (lastingWrites A B) := by
  have hboth {xs ys : List Step} (x y : Option SessionId) : DirectWrites (writesOf x xs ++ writesOf y ys) :=
    (directWrites_writesOf x xs).append (directWrites_writesOf y ys)
  unfold lastingWrites
  refine DirectWrites.append ?_ (hboth (some b) none)
  split
  · exact (hboth none (some a)).append (directWrites_writesOf none _)
  · exact directWrites_writesOf none B.before

theorem directWrites_lasting (A : Span s a steps) (B : Span s b steps) (owner : Option SessionId) :
    DirectWrites (lasting A B owner) := by
  cases owner with
  | none =>
      simp only [lasting]
      split <;> exact directWrites_writesOf _ _
  | some id =>
      simp only [lasting]
      split
      · exact directWrites_writesOf _ _
      · split
        · exact directWrites_writesOf _ _
        · intro step hstep
          cases hstep

-- Two sessions are committed, `b` after `a`, and no two of the sessions and the
-- calls in no session write to the same collection. Then a collection holds what
-- the writes of its owner that last would leave by themselves.
theorem documents_after_two_commits (hn : s.Numbered) (h : s.acceptsAll steps = true) (A : Span s a steps)
    (B : Span s b steps) (hlast : A.committedAt < B.committedAt) (hsteps : CommitsOnly a b steps)
    (owner : String → Option SessionId)
    (howner : ∀ step ∈ steps, ∀ name, step.target? = some name → step.session = owner name)
    (name : String) : (s.run steps).documents name = (s.run (lasting A B (owner name))).documents name := by
  have hab : a ≠ b := by
    rintro rfl
    have hsame := A.committedAt_eq hn h B.steps_eq_uncommitted (.inl B.commit_call)
    exact absurd hlast (by rw [← hsame]; exact Nat.lt_irrefl _)
  -- Both runs of writes come down to the writes to this one collection.
  have hcommitted := committed_run_lastingWrites hn h hsteps hlast
  have hwrites := documents_run_filter (t := s) name rfl (directWrites_lastingWrites A B)
  have howned := documents_run_filter (t := s) name rfl (directWrites_lasting A B (owner name))
  have hfilter := filter_lastingWrites (A := A) (B := B) hn h hab fun step hstep => howner step hstep name
  rw [documents, hcommitted]
  exact hwrites.trans (hfilter ▸ howned.symm)

end

-- Two sessions are on at the same time, and a document is inserted in each of
-- them and another one in none.
def overlappingCommits : List Step :=
  [
    { call := .startSession },
    { call := .startSession },
    { call := .insertOne "u" [("_id", .int32 1)] },
    { session := some ⟨0⟩, call := .insertOne "x" [("_id", .int32 2)] },
    { session := some ⟨1⟩, call := .insertOne "y" [("_id", .int32 3)] },
    { call := .commitTransaction ⟨0⟩ },
    { call := .commitTransaction ⟨1⟩ }
  ]

def overlappingOwner (name : String) : Option SessionId :=
  if name = "u" then none else if name = "x" then some ⟨0⟩ else some ⟨1⟩

def overlappingFirst : Span empty ⟨0⟩ overlappingCommits where
  before := []
  start := { call := .startSession }
  during := (overlappingCommits.take 5).drop 1
  commit := { call := .commitTransaction ⟨0⟩ }
  after := overlappingCommits.drop 6
  steps_eq := rfl
  start_call := rfl
  id_eq := rfl
  commit_call := rfl

def overlappingSecond : Span empty ⟨1⟩ overlappingCommits where
  before := overlappingCommits.take 1
  start := { call := .startSession }
  during := (overlappingCommits.take 6).drop 2
  commit := { call := .commitTransaction ⟨1⟩ }
  after := []
  steps_eq := rfl
  start_call := rfl
  id_eq := rfl
  commit_call := rfl

theorem documents_after_overlapping_commits :
    empty.Numbered ∧ empty.acceptsAll overlappingCommits = true ∧
      overlappingFirst.committedAt < overlappingSecond.committedAt ∧
      CommitsOnly ⟨0⟩ ⟨1⟩ overlappingCommits ∧
      (∀ step ∈ overlappingCommits, ∀ name, step.target? = some name →
        step.session = overlappingOwner name) ∧
      ∀ name, (empty.run overlappingCommits).documents name =
        (empty.run
          (lasting overlappingFirst overlappingSecond (overlappingOwner name))).documents name := by
  have haccepts : empty.acceptsAll overlappingCommits = true := rfl
  have hlast : overlappingFirst.committedAt < overlappingSecond.committedAt := by decide
  have hsteps : CommitsOnly ⟨0⟩ ⟨1⟩ overlappingCommits := by
    simp +contextual [CommitsOnly, overlappingCommits, Call.drop?]
  have howner : ∀ step ∈ overlappingCommits, ∀ name, step.target? = some name →
      step.session = overlappingOwner name := by
    simp [overlappingCommits, Step.target?, Call.write?, overlappingOwner]
  exact ⟨numbered_empty, haccepts, hlast, hsteps, howner,
    documents_after_two_commits numbered_empty haccepts overlappingFirst overlappingSecond hlast hsteps
      overlappingOwner howner⟩

-- Not every write of such a run lasts, although none comes in the way of another.
theorem overlapping_commits_lose_writes :
    ¬ ∀ (s : Store) (a b : SessionId) (steps : List Step), s.Numbered → s.acceptsAll steps = true →
      Nonempty (Span s a steps) → Nonempty (Span s b steps) → a ≠ b →
      (∀ step ∈ steps, step.call = .startSession ∨ step.call = .commitTransaction a ∨
        step.call = .commitTransaction b ∨ (step.call.isWrite = true ∧
          (step.session = none ∨ step.session = some a ∨ step.session = some b))) →
      ∀ owner : String → Option SessionId,
        (∀ step ∈ steps, ∀ name, step.target? = some name → step.session = owner name) →
        ∀ name, (s.run steps).documents name = (s.run (writesOf (owner name) steps)).documents name := by
  intro h
  have howner : ∀ step ∈ overlappingCommits, ∀ name, step.target? = some name →
      step.session = overlappingOwner name := by
    simp [overlappingCommits, Step.target?, Call.write?, overlappingOwner]
  have hkinds : ∀ step ∈ overlappingCommits, step.call = .startSession ∨
      step.call = .commitTransaction ⟨0⟩ ∨ step.call = .commitTransaction ⟨1⟩ ∨
        (step.call.isWrite = true ∧
          (step.session = none ∨ step.session = some ⟨0⟩ ∨ step.session = some ⟨1⟩)) := by
    simp [overlappingCommits, Call.isWrite]
  have hkept := h empty ⟨0⟩ ⟨1⟩ overlappingCommits numbered_empty rfl ⟨overlappingFirst⟩ ⟨overlappingSecond⟩
    (by decide) hkinds overlappingOwner howner "u"
  cases hkept

end Store

end DocStore
