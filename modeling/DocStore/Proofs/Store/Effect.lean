import DocStore.Proofs.Store.View

namespace DocStore

-- The events that go out with a write, which are those of a write that succeeds.
def Write.announced {α : Type} (w : Write α) (name : String) : List (String × Document) :=
  match w.outcome with
  | .ok _ => Store.eventsOf name w
  | .error _ => []

namespace Call

-- The collection that a call writes to and what it makes of its documents, given
-- the identifier for a document that comes without one.
def write? : (c : Call) → Option (String × (ObjectId → List Document → Write c.Answer))
  | insertOne name d => some (name, Collection.insertOne name d)
  | updateMany name filter update upsert =>
    some (name, Collection.update name filter update upsert false)
  | updateOne name filter update upsert =>
    some (name, Collection.update name filter update upsert true)
  | replaceOne name filter replacement upsert =>
    some (name, Collection.replaceOne name filter replacement upsert)
  | deleteMany name filter => some (name, fun _ => Collection.deleteMany name filter)
  | _ => none

-- How many identifiers a call gives out.
def identifiersGiven : Call → Nat
  | insertOne .. => 1
  | updateMany .. => 1
  | updateOne .. => 1
  | replaceOne .. => 1
  | _ => 0

-- The collection that a call drops.
def drop? : Call → Option String
  | dropCollection name => some name
  | runCommand (("drop", .string name) :: _) => some name
  | _ => none

end Call

namespace Store

section

variable {α : Type} {s : Store} {name : String} {f : List Document → Write α}

@[simp] theorem publish_nil (s : Store) : s.publish [] = s := rfl

theorem publish_append (s : Store) (events others : List (String × Document)) :
    s.publish (events ++ others) = (s.publish events).publish others := by
  simp [publish]

@[simp] theorem publish_committed (s : Store) (events : List (String × Document)) :
    (s.publish events).committed = s.committed := by rw [publish_eq]

@[simp] theorem publish_documents (s : Store) (events : List (String × Document)) (name : String) :
    (s.publish events).documents name = s.documents name := by rw [documents, publish_committed, documents]

@[simp] theorem publish_sessions (s : Store) (events : List (String × Document)) :
    (s.publish events).sessions = s.sessions := by rw [publish_eq]

@[simp] theorem publish_identifiers (s : Store) (events : List (String × Document)) :
    (s.publish events).identifiers = s.identifiers := by rw [publish_eq]

@[simp] theorem publish_subscriptions (s : Store) (events : List (String × Document)) :
    (s.publish events).subscriptions =
      s.subscriptions.map fun sub => events.foldl Subscription.receive sub := by rw [publish_eq]

@[simp] theorem publish_sessionsStarted (s : Store) (events : List (String × Document)) :
    (s.publish events).sessionsStarted = s.sessionsStarted := by rw [publish_eq]

theorem write_none : s.write none name f =
    ((f (s.documents name)).outcome,
      { s with committed := s.committed.insert name (f (s.documents name)).documents }.publish
        ((f (s.documents name)).announced name)) := by
  simp only [write, documents, Write.announced]
  split <;> simp_all

theorem write_some {id : SessionId} {own : Session} (hs : s.session? id = some own) :
    s.write (some id) name f =
      ((f (own.data.documents name)).outcome,
        s.setSession id
          { data := own.data.insert name (f (own.data.documents name)).documents
            events := own.events ++ (f (own.data.documents name)).announced name }) := by
  simp only [write, hs, Write.announced]
  split <;> simp_all

end

section

variable {s : Store} {session : Option SessionId} {c : Call} {name : String}

-- The store once a call has been let in and identifiers have been given out.
def counted (s : Store) (serial : Nat) : Store :=
  { s with operations := s.operations + 1, identifiers := serial }

@[simp] theorem counted_view (s : Store) (serial : Nat) (session : Option SessionId) :
    (s.counted serial).view session = s.view session := rfl

theorem answer_of_write {f : ObjectId → List Document → Write c.Answer} (h : c.write? = some (name, f)) :
    s.answer session c =
      ({ s with identifiers := s.identifiers + c.identifiersGiven } : Store).write session name
        (f s.fresh) := by
  cases c with
  | insertOne | updateMany | updateOne | replaceOne | deleteMany =>
      simp only [Call.write?, Option.some.injEq, Prod.mk.injEq] at h
      obtain ⟨rfl, rfl⟩ := h
      rfl
  | _ => cases h

theorem perform_of_write {f : ObjectId → List Document → Write c.Answer} (h : c.write? = some (name, f))
    (hready : s.failing ≠ some c.name) :
    s.perform session c =
      (s.counted (s.identifiers + c.identifiersGiven)).write session name (f s.fresh) := by
  rw [perform_of_ready hready]
  exact answer_of_write h

theorem answer_of_drop (h : c.drop? = some name) : (s.answer session c).2 = s.dropCollection name := by
  unfold Call.drop? at h
  split at h <;> cases h <;> rfl

-- A command changes the store by dropping a collection, or not at all.
theorem runCommand_of_no_drop {command : Document} (h : (Call.runCommand command).drop? = none) :
    (s.runCommand session command).2 = s := by
  unfold runCommand
  split
  · rfl
  · split
    · rfl
    · rfl
    · rfl
    · split
      · next arg _ name harg =>
          unfold targetOf at harg
          split at harg <;> cases harg
          simp [Call.drop?] at h
      · rfl
    · rfl

end

-- The kinds of calls. The last one changes nothing.
theorem answer_cases (c : Call) :
    (∃ name f, c.write? = some (name, f)) ∨ (∃ name, c.drop? = some name) ∨ c = .startSession ∨
      (∃ id, c = .commitTransaction id) ∨ (∃ id, c = .abortTransaction id) ∨
      (∃ name, c = .watch name) ∨
      (c.write? = none ∧ c.drop? = none ∧
        ∀ (s : Store) (session : Option SessionId), (s.answer session c).2 = s) := by
  cases c with
  | runCommand command =>
      cases hd : (Call.runCommand command).drop? with
      | some name => simp
      | none => simp [Call.write?, answer, runCommand_of_no_drop hd]
  | find | aggregate | runCommandCursor | distinct | countDocuments | collectionNames | bucket =>
      simp [Call.write?, Call.drop?, answer]
  | _ => simp [Call.write?, Call.drop?]

theorem failing_answer (s : Store) (session : Option SessionId) (c : Call) :
    (s.answer session c).2.failing = s.failing := by
  rcases answer_cases c with ⟨name, f, hw⟩ | ⟨name, hd⟩ | rfl | ⟨id, rfl⟩ | ⟨id, rfl⟩ | ⟨name, rfl⟩ |
    ⟨_, _, hsame⟩
  · rw [answer_of_write hw, write_failing]
  · rw [answer_of_drop hd]
    rfl
  · rfl
  · simp only [answer, commit]
    split
    · rfl
    · rw [publish_failing]
      rfl
  · simp only [answer, abort]
    split <;> rfl
  · rfl
  · rw [hsame]

-- What holds of the committed collections and of those of every session.
def All (s : Store) (P : Collections → Prop) : Prop :=
  P s.committed ∧ ∀ entry ∈ s.sessions, P entry.2.data

section

variable {s : Store} {P : Collections → Prop} {session : Option SessionId} {data : Collections}

theorem mem_sessions_of_session? {id : SessionId} {own : Session} (h : s.session? id = some own) :
    (id, own) ∈ s.sessions := by
  obtain ⟨before, after, hsessions, _⟩ := List.lookup_eq_some_iff.mp h
  simp [hsessions]

theorem All.of_view (h : s.All P) (hv : s.view session = .ok data) : P data := by
  cases session with
  | none =>
      cases hv
      exact h.1
  | some id =>
      cases hs : s.session? id with
      | none => simp [view, hs] at hv
      | some own =>
          simp only [view, hs, Except.ok.injEq] at hv
          exact hv ▸ h.2 _ (mem_sessions_of_session? hs)

-- A write has only one set of collections to show something of.
theorem All.write_iff {α : Type} {name : String} {f : List Document → Write α} (h : s.All P)
    (hv : s.view session = .ok data) :
    (s.write session name f).2.All P ↔ P (data.insert name (f (data.documents name)).documents) := by
  constructor
  · intro hall
    exact hall.of_view (by rw [view_write hv, if_pos rfl])
  · intro hnew
    cases session with
    | none =>
        cases hv
        rw [write_none]
        exact ⟨by simpa [documents] using hnew, by simpa using h.2⟩
    | some id =>
        cases hs : s.session? id with
        | none => simp [view, hs] at hv
        | some own =>
            simp only [view, hs, Except.ok.injEq] at hv
            subst hv
            rw [write_some hs]
            refine ⟨h.1, fun entry hentry => ?_⟩
            obtain ⟨old, hold, rfl⟩ := List.mem_map.mp hentry
            split
            · exact hnew
            · exact h.2 old hold

-- Calls that write nothing start from, end with or drop what is there.
theorem All.answer_of_not_write (h : s.All P) (herase : ∀ data name, P data → P (data.erase name))
    (session : Option SessionId) {c : Call} (hc : c.write? = none) : (s.answer session c).2.All P := by
  rcases answer_cases c with ⟨name, f, hw⟩ | ⟨name, hd⟩ | rfl | ⟨id, rfl⟩ | ⟨id, rfl⟩ | ⟨name, rfl⟩ |
    ⟨_, _, hsame⟩
  · simp [hc] at hw
  · rw [answer_of_drop hd]
    exact ⟨herase _ name h.1, h.2⟩
  · refine ⟨h.1, fun entry hentry => ?_⟩
    rcases List.mem_append.mp hentry with hold | hnew
    · exact h.2 entry hold
    · rw [List.mem_singleton.mp hnew]
      exact h.1
  · simp only [answer, commit]
    split
    · exact h
    · next own hs =>
        refine ⟨by simpa using h.2 _ (mem_sessions_of_session? hs), fun entry hentry => ?_⟩
        rw [publish_sessions] at hentry
        exact h.2 entry ((List.mem_filter.mp hentry).1)
  · simp only [answer, abort]
    split
    · exact h
    · exact ⟨h.1, fun entry hentry => h.2 entry ((List.mem_filter.mp hentry).1)⟩
  · exact h
  · rw [hsame]
    exact h

@[simp] theorem counted_all (serial : Nat) : (s.counted serial).All P ↔ s.All P := Iff.rfl

theorem All.perform_of_failing (h : s.All P) {c : Call} (hf : s.failing = some c.name) :
    (s.perform session c).2.All P := by
  rw [Store.perform_of_failing hf]
  exact h

theorem All.perform_of_not_write (h : s.All P) (herase : ∀ data name, P data → P (data.erase name))
    {c : Call} (hc : c.write? = none) : (s.perform session c).2.All P := by
  by_cases hf : s.failing = some c.name
  · exact h.perform_of_failing hf
  · rw [perform_of_ready hf]
    exact ((counted_all s.identifiers).mpr h).answer_of_not_write herase session hc

theorem All.perform_of_write_iff {c : Call} {name : String}
    {f : ObjectId → List Document → Write c.Answer} (h : s.All P) (hc : c.write? = some (name, f))
    (hready : s.failing ≠ some c.name) (hv : s.view session = .ok data) :
    (s.perform session c).2.All P ↔ P (data.insert name (f s.fresh (data.documents name)).documents) := by
  rw [perform_of_write hc hready]
  exact ((counted_all _).mpr h).write_iff hv

-- A write that finds no session changes nothing.
theorem All.perform_of_view_error {c : Call} {name : String}
    {f : ObjectId → List Document → Write c.Answer} (h : s.All P) (hc : c.write? = some (name, f))
    (hready : s.failing ≠ some c.name) {e : StoreError} (hv : s.view session = .error e) :
    (s.perform session c).2.All P := by
  rw [perform_of_write hc hready, write_of_view_error (by rw [counted_view, hv])]
  exact h

end

end Store

end DocStore
