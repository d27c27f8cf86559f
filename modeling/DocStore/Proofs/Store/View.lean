import DocStore.Store.Call

namespace DocStore

theorem Collections.documents_insert (data : Collections) (name other : String) (docs : List Document) :
    Collections.documents (data.insert name docs) other =
      if name = other then docs else data.documents other := by
  unfold Collections.documents OrderedMap.getD
  rw [OrderedMap.get?_insert]
  split <;> rfl

@[simp] theorem Collections.documents_insert_self (data : Collections) (name : String) (docs : List Document) :
    Collections.documents (data.insert name docs) name = docs := by
  simp [Collections.documents_insert]

namespace Store

-- The store after calls made one after the other, each in a session or in none.
def after (s : Store) (calls : List (Option SessionId × Call)) : Store :=
  calls.foldl (fun s made => (s.perform made.1 made.2).2) s

def Reachable (s : Store) : Prop := ∃ calls, s = empty.after calls

variable {α : Type}

theorem session?_setSession (s : Store) (id other : SessionId) (session : Session) :
    (s.setSession id session).session? other =
      if other = id then (s.session? id).map fun _ => session else s.session? other := by
  unfold session? setSession
  induction s.sessions with
  | nil => split <;> rfl
  | cons entry rest ih =>
      obtain ⟨key, old⟩ := entry
      by_cases ho : other = id
      · subst ho
        by_cases hk : key = other
        · simp [hk]
        · have hk' : (other == key) = false := beq_false_of_ne (Ne.symm hk)
          simpa [List.lookup_cons, hk, hk'] using ih
      · by_cases hk : key = id
        · have hk' : (other == id) = false := beq_false_of_ne ho
          simpa [List.lookup_cons, hk, hk', ho] using ih
        · by_cases hok : other = key
          · simp [hok, hk]
          · have hok' : (other == key) = false := beq_false_of_ne hok
            simpa [List.lookup_cons, hk, hok', ho] using ih

theorem view_setSession (s : Store) (id : SessionId) (session : Session) (other : Option SessionId)
    (hs : (s.session? id).isSome) :
    (s.setSession id session).view other = if other = some id then .ok session.data else s.view other := by
  cases other with
  | none => rfl
  | some key =>
      simp only [view, session?_setSession, Option.some.injEq]
      obtain ⟨own, hown⟩ := Option.isSome_iff_exists.mp hs
      by_cases hk : key = id
      · simp [hk, hown]
      · simp [hk]

-- Every subscription takes up the events of its collection, one after the other.
theorem publish_eq (s : Store) (events : List (String × Document)) :
    s.publish events =
      { s with subscriptions := s.subscriptions.map fun sub => events.foldl Subscription.receive sub } := by
  induction events generalizing s with
  | nil => simp [publish]
  | cons event rest ih =>
      unfold publish at ih ⊢
      simp only [List.foldl_cons, ih, announce, List.map_map]
      rfl

@[simp] theorem publish_view (s : Store) (events : List (String × Document)) (session : Option SessionId) :
    (s.publish events).view session = s.view session := by
  rw [publish_eq]
  rfl

@[simp] theorem publish_failing (s : Store) (events : List (String × Document)) :
    (s.publish events).failing = s.failing := by rw [publish_eq]

theorem perform_of_failing {s : Store} {session : Option SessionId} {c : Call}
    (h : s.failing = some c.name) :
    s.perform session c =
      (.error (.injected c.name), { s with operations := s.operations + 1, failing := none }) := by
  simp [perform, enter, h]

theorem perform_of_ready {s : Store} {session : Option SessionId} {c : Call}
    (h : s.failing ≠ some c.name) :
    s.perform session c = ({ s with operations := s.operations + 1 } : Store).answer session c := by
  simp [perform, enter, h]

-- A session that is not there fails every write and changes nothing.
theorem write_of_view_error {s : Store} {session : Option SessionId} {e : StoreError}
    (h : s.view session = .error e) (name : String) (f : List Document → Write α) :
    s.write session name f = (.error e, s) := by
  cases session with
  | none => simp [view] at h
  | some id =>
      cases hs : s.session? id with
      | none =>
          simp only [view, hs, Except.error.injEq] at h
          simp [write, hs, h]
      | some session => simp [view, hs] at h

section

variable {s : Store} {session : Option SessionId} {data : Collections}

theorem write_outcome (hv : s.view session = .ok data) (name : String) (f : List Document → Write α) :
    (s.write session name f).1 = (f (data.documents name)).outcome := by
  cases session with
  | none =>
      simp only [view, Except.ok.injEq] at hv
      subst hv
      simp only [write]
      split <;> simp_all
  | some id =>
      cases hs : s.session? id with
      | none => simp [view, hs] at hv
      | some own =>
          simp only [view, hs, Except.ok.injEq] at hv
          subst hv
          simp only [write, hs]
          split <;> simp_all

theorem view_write (hv : s.view session = .ok data) (name : String) (f : List Document → Write α)
    (other : Option SessionId) :
    (s.write session name f).2.view other =
      if other = session then .ok (data.insert name (f (data.documents name)).documents)
      else s.view other := by
  cases session with
  | none =>
      simp only [view, Except.ok.injEq] at hv
      subst hv
      simp only [write]
      split
      · rw [publish_view]
        cases other <;> simp [view, session?]
      · cases other <;> simp [view, session?]
  | some id =>
      cases hs : s.session? id with
      | none => simp [view, hs] at hv
      | some own =>
          simp only [view, hs, Except.ok.injEq] at hv
          subst hv
          simp only [write, hs]
          split <;> rw [view_setSession _ _ _ _ (by simp [hs])]

@[simp] theorem write_failing (name : String) (f : List Document → Write α) :
    (s.write session name f).2.failing = s.failing := by
  unfold write
  split
  · dsimp only
    split <;> simp
  · split
    · rfl
    · dsimp only
      split <;> rfl

-- A document with a new identifier stands last in its collection from then on.
theorem perform_insertOne {name : String} {d stored : Document} {id : Value}
    (hv : s.view session = .ok data) (hready : s.failing ≠ some "insert_one")
    (hstored : d.withId none s.fresh = stored) (hid : stored.id? = some id)
    (hnew : (data.documents name).any (Collection.holdsId id) = false) :
    ∃ after, s.perform session (.insertOne name d) = (.ok id, after) ∧
      after.view session = .ok (data.insert name (data.documents name ++ [stored])) ∧
      after.failing = s.failing := by
  let counted : Store := { s with operations := s.operations + 1, identifiers := s.identifiers + 1 }
  have hcounted : counted.view session = .ok data := hv
  have hwrite : Collection.insertOne name d s.fresh (data.documents name) =
      ⟨data.documents name ++ [stored], [stored.changeEvent "insert" name], .ok id⟩ := by
    simp [Collection.insertOne, hstored, hid, hnew]
  rw [perform_of_ready hready]
  refine ⟨(counted.write session name (Collection.insertOne name d s.fresh)).2, ?_, ?_, ?_⟩
  · refine Prod.ext ?_ rfl
    exact (write_outcome hcounted name _).trans (congrArg Write.outcome hwrite)
  · rw [view_write hcounted name _ session, if_pos rfl, hwrite]
  · exact write_failing name _

theorem perform_find (hv : s.view session = .ok data) (hready : s.failing ≠ some "find") (name : String)
    (selector : Document) (options : FindOptions) :
    s.perform session (.find name selector options) =
      ((Collection.find selector options (data.documents name)).map fun rest => { rest },
        { s with operations := s.operations + 1 }) := by
  have hcounted : ({ s with operations := s.operations + 1 } : Store).view session = .ok data := hv
  rw [perform_of_ready hready]
  simp only [answer, streamOf, findIn, hcounted]
  rfl

end

end Store

end DocStore
