import DocStore.Proofs.Connection.Ordinary
import Mathlib.Data.List.Nodup

namespace DocStore

@[simp] theorem Ending.ends_call (ending : Ending) (id other : SessionId) :
    (ending.call id).ends other = (id == other) := by
  cases ending <;> rfl

namespace Transaction

variable {tx : Transaction} {id : SessionId}

-- What has ended is not ended again.
theorem finish_of_none (h : tx.session = none) (ending : Ending) (conn : Connection) :
    tx.finish ending conn = (.ok (), tx, conn) := by
  simp only [finish, h]

-- A transaction gives its session up with one call, whether that succeeds or not.
theorem finish_of_some (h : tx.session = some id) (ending : Ending) (conn : Connection) :
    ∃ client, client.Extends conn.client [⟨ending.call id, true⟩] ∧
      (tx.finish ending conn).2 = (⟨none⟩, { conn with client, isTx := false }) := by
  refine ⟨_, ?_, by simp only [finish, h, Connection.act]; rfl⟩
  have hextends := conn.client.extends_issue none ending.activity (ending.call id)
  rwa [show (ending.call id).isBound none = true by cases ending <;> rfl] at hextends

theorem noted_finish (tx : Transaction) (ending : Ending) (conn : Connection) :
    ∃ more, (tx.finish ending conn).2.2.client.noted = conn.client.noted ++ more ∧
      ∀ c ∈ more, c.call ≠ .startSession := by
  cases h : tx.session with
  | none => exact ⟨[], by rw [finish_of_none h, List.append_nil], by simp⟩
  | some id =>
      obtain ⟨client, he, heq⟩ := finish_of_some h ending conn
      refine ⟨_, by rw [heq]; exact he.noted, ?_⟩
      cases ending <;> simp [Ending.call]

-- Giving up what was committed or rolled back does nothing more.
theorem abandon_finish (tx : Transaction) (ending : Ending) (conn : Connection) :
    (tx.finish ending conn).2.1.abandon (tx.finish ending conn).2.2 = (tx.finish ending conn).2 := by
  have hnone : (tx.finish ending conn).2.1.session = none := by
    cases h : tx.session with
    | none => rw [finish_of_none h, h]
    | some id =>
        obtain ⟨client, _, heq⟩ := finish_of_some h ending conn
        rw [heq]
  rw [abandon, finish_of_none hnone]

end Transaction

namespace Connection

theorem openTx_refused {conn : Connection} (h : conn.config.disableTx = true ∨ conn.isTx = true) :
    ∃ e, conn.openTx = (.error e, conn) := by
  by_cases hdisabled : conn.config.disableTx = true
  · exact ⟨_, by rw [openTx, if_pos hdisabled]⟩
  · exact ⟨_, by rw [openTx, if_neg hdisabled, if_pos (h.resolve_left hdisabled)]⟩

-- A connection opens no transaction and is left as it was, or it asks for a
-- session and opens a transaction with the session that it gets.
theorem openTx_cases (conn : Connection) :
    (∃ e, conn.openTx = (.error e, conn)) ∨
    conn.isTx = false ∧ ∃ client : Client, client.Extends conn.client [⟨.startSession, false⟩] ∧
      ((∃ e, conn.openTx = (.error e, { conn with client })) ∨
        client.store.sessionsStarted = conn.client.store.sessionsStarted + 1 ∧
          conn.openTx = (.ok ⟨some ⟨conn.client.store.sessionsStarted⟩⟩, { conn with client, isTx := true })) := by
  by_cases hrefused : conn.config.disableTx = true ∨ conn.isTx = true
  · exact Or.inl (openTx_refused hrefused)
  obtain ⟨hdisabled, htx⟩ := not_or.mp hrefused
  have hextends := conn.client.extends_issue none "unable to start transaction" .startSession
  refine Or.inr ⟨by simpa using htx, _, hextends, ?_⟩
  rw [openTx, if_neg hdisabled, if_neg htx]
  by_cases hfailing : conn.client.store.failing = some "start_session"
  · left
    simp [act, Client.issue, Client.note, Store.perform_of_failing (c := .startSession) hfailing]
  · right
    simp [act, Client.issue, Client.note, Store.perform_of_ready (c := .startSession) hfailing, Store.answer,
      Store.startSession]

theorem isTx_of_openTx_error {conn after : Connection} {e : DbError} (h : conn.openTx = (.error e, after)) :
    after.isTx = conn.isTx := by
  rcases conn.openTx_cases with ⟨_, hopen⟩ | ⟨_, client, _, ⟨_, hopen⟩ | ⟨_, hopen⟩⟩
  · rw [h] at hopen
    cases hopen
    rfl
  · rw [h] at hopen
    cases hopen
    rfl
  · rw [h] at hopen
    cases hopen

theorem openTx_of_started {conn : Connection} {id : SessionId} (hdisabled : conn.config.disableTx = false)
    (htx : conn.isTx = false) (h : (conn.client.store.perform none .startSession).1 = .ok id) :
    ∃ after, conn.openTx = (.ok ⟨some id⟩, after) := by
  cases hperform : conn.client.store.perform none .startSession with
  | mk r s =>
      rw [hperform] at h
      subst h
      exact ⟨_, by simp [openTx, hdisabled, htx, act, Client.issue, Client.note, hperform]; rfl⟩

end Connection

-- What others make of the store in between. They may change it as they like, and
-- ask for a call to fail, but no number of a session is given again.
structure Interference where
  change : Store → Store
  started : ∀ s, s.sessionsStarted ≤ (change s).sessionsStarted

namespace Interference

def failNext (call : String) : Interference := ⟨(·.failNext call), fun _ => Nat.le_refl _⟩

-- A call that somebody else makes.
def perform (session : Option SessionId) (c : Call) : Interference :=
  ⟨fun s => (s.perform session c).2, fun s => s.sessionsStarted_le_perform session c⟩

end Interference

namespace Connection

-- What can happen to a connection and to the transactions that it handed out,
-- which go by their numbers. Operations without a number run on their own.
inductive Action where
  | openTx
  | finish (i : Nat) (ending : Ending)
  | abandon (i : Nat)
  | disableTx (disabled : Bool)
  | cursor (i : Option Nat) (clauses : List Clause)
  | count (c : Cursor)
  | execute (i : Option Nat) (clauses : List Clause) (params : Params)
  | dropCollection (name : String)
  | collectionNames
  | meanwhile (others : Interference)

-- A transaction that was handed out.
structure Handout where
  -- As it was then, and as it is now.
  given : Transaction
  tx : Transaction := given
  -- How many calls had been noted before.
  earlier : Nat
  -- Whether it is neither committed nor rolled back nor abandoned.
  isLive : Bool := true

-- A connection in use, with all transactions that it handed out.
structure Usage where
  conn : Connection
  handouts : List Handout := []

namespace Usage

def start (config : Config) (store : Store) : Usage := { conn := { config, client := { store } } }

def tx? (u : Usage) (i : Option Nat) : Option Transaction := (i.bind (u.handouts[·]?)).map (·.tx)

-- Takes a transaction from its holder and lets something become of it.
def consume (u : Usage) (i : Nat) (f : Transaction → Connection → Transaction × Connection) : Usage :=
  match u.handouts[i]? with
  | none => u
  | some h =>
    let (tx, conn) := f h.tx u.conn
    { conn, handouts := u.handouts.set i { h with tx, isLive := false } }

def step (u : Usage) : Action → Usage
  | .openTx =>
    match u.conn.openTx with
    | (.ok tx, conn) =>
      { conn, handouts := u.handouts ++ [{ given := tx, earlier := u.conn.client.noted.length }] }
    | (.error _, conn) => { u with conn }
  | .finish i ending => u.consume i fun tx conn =>
    -- what is left of a transaction that has ended is dropped
    let (_, tx, conn) := tx.finish ending conn
    tx.abandon conn
  | .abandon i => u.consume i Transaction.abandon
  | .disableTx disabled => { u with conn := u.conn.disableTx disabled }
  | .cursor i clauses => { u with conn := (u.conn.cursor (u.tx? i) clauses).2 }
  | .count c => { u with conn := (u.conn.act c.count).2 }
  | .execute i clauses params => { u with conn := (u.conn.execute (u.tx? i) clauses params).2 }
  | .dropCollection name => { u with conn := (u.conn.dropCollection name).2 }
  | .collectionNames => { u with conn := u.conn.collectionNames.2 }
  | .meanwhile others =>
    let client := { u.conn.client with store := others.change u.conn.client.store }
    { u with conn := { u.conn with client } }

def run (u : Usage) (actions : List Action) : Usage := actions.foldl step u

end Usage

-- What the calls on record say of a transaction: they start its session with the
-- call after the earlier ones, and end it afterwards if it is not live any more.
structure Handout.Accounted (h : Handout) (client : Client) (id : SessionId) : Prop where
  given : h.given = ⟨some id⟩
  held : h.tx.session = if h.isLive then some id else none
  numbered : id.serial < client.store.sessionsStarted
  started : client.noted[h.earlier]? = some ⟨.startSession, false⟩
  before : (client.noted.take h.earlier).countP (·.call.ends id) = 0
  after : (client.noted.drop h.earlier).countP (·.call.ends id) = if h.isLive then 0 else 1

structure Usage.Consistent (u : Usage) : Prop where
  live : u.handouts.countP (·.isLive) = if u.conn.isTx then 1 else 0
  distinct : (u.handouts.map (·.given)).Nodup
  accounted : ∀ h ∈ u.handouts, ∃ id, h.Accounted u.conn.client id
  numbered : ∀ c ∈ u.conn.client.noted, ∀ id, c.call.ends id = true →
    id.serial < u.conn.client.store.sessionsStarted

variable {client before : Client} {more : List NotedCall} {id : SessionId} {h : Handout} {u : Usage}

-- Calls that do not end its session leave the account of a transaction as it is.
theorem Handout.Accounted.extends (ha : h.Accounted before id) (he : client.Extends before more)
    (hmore : more.countP (·.call.ends id) = 0) : h.Accounted client id := by
  obtain ⟨hstarted, htake, hdrop⟩ := he.noted_at ha.started
  refine ⟨ha.given, ha.held, Nat.lt_of_lt_of_le ha.numbered he.started, hstarted, ?_, ?_⟩
  · rw [htake, ha.before]
  · rw [hdrop, List.countP_append, hmore, ha.after, Nat.add_zero]

-- The call that ends its session is the last that a transaction makes.
theorem Handout.Accounted.ended (ha : h.Accounted before id) (hlive : h.isLive = true) {ending : Ending}
    (he : client.Extends before [⟨ending.call id, true⟩]) :
    ({ h with tx := ⟨none⟩, isLive := false } : Handout).Accounted client id := by
  obtain ⟨hstarted, htake, hdrop⟩ := he.noted_at ha.started
  have hafter := ha.after
  rw [hlive] at hafter
  refine ⟨ha.given, rfl, Nat.lt_of_lt_of_le ha.numbered he.started, hstarted, ?_, ?_⟩
  · rw [htake, ha.before]
  · rw [hdrop, List.countP_append, hafter]
    simp

namespace Usage

theorem consistent_start (config : Config) (store : Store) : (start config store).Consistent where
  live := rfl
  distinct := List.nodup_nil
  accounted := fun _ hh => absurd hh List.not_mem_nil
  numbered := fun _ hc => absurd hc List.not_mem_nil

-- The calls on record stay those of sessions that were given out.
theorem Consistent.numbered_extends (hu : u.Consistent) (he : client.Extends u.conn.client more)
    (hmore : ∀ c ∈ more, ∀ id, c.call.ends id = true → id.serial < client.store.sessionsStarted) :
    ∀ c ∈ client.noted, ∀ id, c.call.ends id = true → id.serial < client.store.sessionsStarted := by
  intro c hc id hends
  rw [he.noted] at hc
  cases List.mem_append.mp hc with
  | inl hearlier => exact Nat.lt_of_lt_of_le (hu.numbered c hearlier id hends) he.started
  | inr hnow => exact hmore c hnow id hends

-- Calls that end no session change nothing about the transactions.
theorem Consistent.extends (hu : u.Consistent) {conn : Connection} (htx : conn.isTx = u.conn.isTx)
    (he : conn.client.Extends u.conn.client more) (hmore : ∀ c ∈ more, ∀ id, c.call.ends id = false) :
    ({ u with conn } : Usage).Consistent := by
  refine ⟨?_, hu.distinct, fun h hh => ?_, hu.numbered_extends he fun c hc id hends => ?_⟩
  · rw [htx]
    exact hu.live
  · obtain ⟨id, ha⟩ := hu.accounted h hh
    exact ⟨id, ha.extends he (List.countP_eq_zero.mpr fun c hc => by simp [hmore c hc id])⟩
  · rw [hmore c hc id] at hends
    cases hends

theorem Consistent.continues (hu : u.Consistent) {conn : Connection} (htx : conn.isTx = u.conn.isTx)
    (hc : conn.client.Continues u.conn.client) : ({ u with conn } : Usage).Consistent := by
  obtain ⟨more, he, hmore⟩ := hc
  exact hu.extends htx he fun c hc id => Call.ends_of_isOrdinary (hmore c hc) id

theorem Consistent.openTx (hu : u.Consistent) : (u.step .openTx).Consistent := by
  have hends : ∀ c ∈ [(⟨.startSession, false⟩ : NotedCall)], ∀ id, c.call.ends id = false := by simp [Call.ends]
  rcases u.conn.openTx_cases with ⟨e, hopen⟩ | ⟨htx, client, he, ⟨e, hopen⟩ | ⟨hstarted, hopen⟩⟩
  · simp only [step, hopen]
    exact hu
  · simp only [step, hopen]
    exact hu.extends rfl he hends
  · -- the session has a number that no call on record can have ended
    have hnew : u.conn.client.noted.countP (·.call.ends ⟨u.conn.client.store.sessionsStarted⟩) = 0 :=
      List.countP_eq_zero.mpr fun c hc h => absurd (hu.numbered c hc _ h) (Nat.lt_irrefl _)
    simp only [step, hopen]
    refine ⟨?_, ?_, fun h hh => ?_, hu.numbered_extends he fun c hc id h => ?_⟩
    · rw [List.countP_append, hu.live, htx]
      rfl
    · rw [List.map_append, List.nodup_append]
      refine ⟨hu.distinct, List.nodup_singleton _, fun a ha b hb hab => ?_⟩
      obtain ⟨h, hh, rfl⟩ := List.mem_map.mp ha
      obtain ⟨id, hacc⟩ := hu.accounted h hh
      have hgiven := hacc.given
      rw [hab, List.mem_singleton.mp hb] at hgiven
      cases hgiven
      exact absurd hacc.numbered (Nat.lt_irrefl _)
    · cases List.mem_append.mp hh with
      | inl hold =>
          obtain ⟨id, ha⟩ := hu.accounted h hold
          exact ⟨id, ha.extends he (List.countP_eq_zero.mpr fun c hc => by simp [hends c hc id])⟩
      | inr hown =>
          rw [List.mem_singleton.mp hown]
          refine ⟨⟨u.conn.client.store.sessionsStarted⟩, rfl, rfl, ?_, ?_, ?_, ?_⟩
          · exact hstarted ▸ Nat.lt_succ_self _
          · simp [he.noted]
          · simpa [he.noted] using hnew
          · simp [he.noted, Call.ends]
    · rw [hends c hc id] at h
      cases h

-- The live transaction is the only one, and the call that ends it names its session
-- and no other.
theorem Consistent.ended (hu : u.Consistent) {i : Nat} (hi : u.handouts[i]? = some h)
    (hlive : h.isLive = true) (ha : h.Accounted u.conn.client id) {ending : Ending}
    (he : client.Extends u.conn.client [⟨ending.call id, true⟩]) :
    ({ conn := { u.conn with client, isTx := false },
       handouts := u.handouts.set i { h with tx := ⟨none⟩, isLive := false } } : Usage).Consistent := by
  obtain ⟨hlt, hget⟩ := List.getElem?_eq_some_iff.mp hi
  have hmem := List.mem_of_getElem? hi
  have hnone : (u.handouts.set i { h with tx := ⟨none⟩, isLive := false }).countP (·.isLive) = 0 := by
    rw [List.countP_set hlt, hget, hu.live, hlive]
    cases u.conn.isTx <;> rfl
  refine ⟨hnone, ?_, fun k hk => ?_, hu.numbered_extends he fun c hc other hends => ?_⟩
  · have hself := @List.set_getElem_self _ (u.handouts.map (·.given)) i (by simpa using hlt)
    rw [List.getElem_map, hget] at hself
    rw [List.map_set, hself]
    exact hu.distinct
  · have hdead : k.isLive = false := by simpa using List.countP_eq_zero.mp hnone k hk
    cases List.mem_or_eq_of_mem_set hk with
    | inr hown => exact ⟨id, hown ▸ ha.ended hlive he⟩
    | inl hold =>
        obtain ⟨other, hother⟩ := hu.accounted k hold
        have hne : id ≠ other := by
          rintro rfl
          have hsame := List.inj_on_of_nodup_map hu.distinct hold hmem (hother.given.trans ha.given.symm)
          rw [hsame, hlive] at hdead
          cases hdead
        exact ⟨other, hother.extends he (by simp [hne])⟩
  · obtain rfl : id = other := by simpa [List.mem_singleton.mp hc] using hends
    exact Nat.lt_of_lt_of_le ha.numbered he.started

theorem Consistent.consume (hu : u.Consistent) (i : Nat) (ending : Ending) :
    (u.consume i fun tx conn => (tx.finish ending conn).2).Consistent := by
  cases hi : u.handouts[i]? with
  | none =>
      simp only [Usage.consume, hi]
      exact hu
  | some h =>
      obtain ⟨hlt, hget⟩ := List.getElem?_eq_some_iff.mp hi
      obtain ⟨id, ha⟩ := hu.accounted h (List.mem_of_getElem? hi)
      have hheld := ha.held
      cases hlive : h.isLive with
      | false =>
          rw [hlive] at hheld
          have hsame : ({ h with isLive := false } : Handout) = h := by rw [← hlive]
          simp only [Usage.consume, hi, Transaction.finish_of_none hheld, hsame]
          rw [← hget, List.set_getElem_self]
          exact hu
      | true =>
          rw [hlive] at hheld
          obtain ⟨client, he, hfinish⟩ := Transaction.finish_of_some hheld ending u.conn
          simp only [Usage.consume, hi, hfinish]
          exact hu.ended hi hlive ha he

-- A step opens a transaction, ends one, or does something else that has nothing to
-- do with transactions.
theorem step_cases (u : Usage) (action : Action) :
    action = .openTx ∨ (∃ i ending, u.step action = u.consume i fun tx conn => (tx.finish ending conn).2) ∨
      ∃ conn : Connection, u.step action = { u with conn } ∧ conn.isTx = u.conn.isTx ∧
        conn.client.Continues u.conn.client := by
  cases action with
  | openTx => exact Or.inl rfl
  | finish i ending =>
      refine Or.inr (Or.inl ⟨i, ending, ?_⟩)
      simp only [Usage.step, Transaction.abandon_finish]
  | abandon i => exact Or.inr (Or.inl ⟨i, .rollback, rfl⟩)
  | disableTx disabled => exact Or.inr (Or.inr ⟨_, rfl, rfl, .refl _⟩)
  | cursor i clauses => exact Or.inr (Or.inr ⟨_, rfl, rfl, Cursor.continues_ofQuery _ _ _⟩)
  | count c => exact Or.inr (Or.inr ⟨_, rfl, rfl, Cursor.ordinary_count c _⟩)
  | execute i clauses params => exact Or.inr (Or.inr ⟨_, rfl, rfl, Execute.ordinary_run _ _ _ _⟩)
  | dropCollection name => exact Or.inr (Or.inr ⟨_, rfl, rfl, ClientM.ordinary_issue _ _ rfl _⟩)
  | collectionNames => exact Or.inr (Or.inr ⟨_, rfl, rfl, ClientM.ordinary_issue _ _ rfl _⟩)
  | meanwhile others => exact Or.inr (Or.inr ⟨_, rfl, rfl, .of_noted rfl (others.started _)⟩)

-- Whatever happens next, the transactions are accounted for.
theorem Consistent.step (hu : u.Consistent) (action : Action) : (u.step action).Consistent := by
  rcases u.step_cases action with rfl | ⟨i, ending, h⟩ | ⟨conn, h, htx, hc⟩
  · exact hu.openTx
  · rw [h]
    exact hu.consume i ending
  · rw [h]
    exact hu.continues htx hc

theorem Consistent.run (hu : u.Consistent) (actions : List Action) : (u.run actions).Consistent := by
  induction actions generalizing u with
  | nil => exact hu
  | cons action rest ih => exact ih (hu.step action)

-- Nothing but opening a transaction starts a session.
theorem noted_step (u : Usage) {action : Action} (haction : action ≠ .openTx) :
    ∃ more, (u.step action).conn.client.noted = u.conn.client.noted ++ more ∧
      ∀ c ∈ more, c.call ≠ .startSession := by
  rcases u.step_cases action with rfl | ⟨i, ending, h⟩ | ⟨conn, h, _, more, he, hmore⟩
  · exact absurd rfl haction
  · rw [h, Usage.consume]
    split
    · exact ⟨[], (List.append_nil _).symm, by simp⟩
    · next own _ => exact own.tx.noted_finish ending u.conn
  · refine ⟨more, by rw [h, he.noted], fun c hc hstart => ?_⟩
    have hordinary := hmore c hc
    rw [hstart] at hordinary
    cases hordinary

-- Whether the connection was new once, on whatever store.
def Reachable (u : Usage) : Prop := ∃ config store actions, u = (start config store).run actions

theorem Reachable.consistent (hu : u.Reachable) : u.Consistent := by
  obtain ⟨config, store, actions, rfl⟩ := hu
  exact (consistent_start config store).run actions

-- At any time one transaction is live at most, and the connection knows whether one
-- is. Transactions are opened with a session of their own, and only then are
-- sessions started; where none is opened, none becomes live. Every session that was
-- started has been ended by one call if its transaction is not live any more, and by
-- none otherwise.
theorem transactions_accounted (hu : u.Reachable) :
    (u.handouts.countP (·.isLive) ≤ 1 ∧ (u.conn.isTx = true ↔ ∃ h ∈ u.handouts, h.isLive = true)) ∧
    (u.conn.config.disableTx = true ∨ u.conn.isTx = true → ∃ e, u.conn.openTx = (.error e, u.conn)) ∧
    (∀ e after, u.conn.openTx = (.error e, after) →
      (u.step .openTx).handouts = u.handouts ∧ (u.step .openTx).conn.isTx = u.conn.isTx) ∧
    (∀ id, u.conn.config.disableTx = false → u.conn.isTx = false →
      (u.conn.client.store.perform none .startSession).1 = .ok id →
        ∃ h, (u.step .openTx).handouts = u.handouts ++ [h] ∧ h.given = ⟨some id⟩ ∧ h.isLive = true) ∧
    (∀ action, action ≠ .openTx → ∃ more, (u.step action).conn.client.noted = u.conn.client.noted ++ more ∧
      ∀ c ∈ more, c.call ≠ .startSession) ∧
    (u.handouts.map (·.given)).Nodup ∧
    ∀ h ∈ u.handouts, ∃ id, h.given = ⟨some id⟩ ∧
      u.conn.client.noted[h.earlier]? = some ⟨.startSession, false⟩ ∧
      (u.conn.client.noted.take h.earlier).countP (·.call.ends id) = 0 ∧
      (u.conn.client.noted.drop h.earlier).countP (·.call.ends id) = if h.isLive then 0 else 1 := by
  have hconsistent := hu.consistent
  refine ⟨⟨?_, ?_⟩, openTx_refused, fun e after hopen => ?_, fun id hdisabled htx hstart => ?_,
    fun action => u.noted_step, hconsistent.distinct, fun h hh => ?_⟩
  · rw [hconsistent.live]
    split <;> decide
  · rw [← List.countP_pos_iff, hconsistent.live]
    cases u.conn.isTx <;> simp
  · have hstep : u.step .openTx = { u with conn := after } := by simp only [step, hopen]
    rw [hstep]
    exact ⟨rfl, isTx_of_openTx_error hopen⟩
  · obtain ⟨after, hopen⟩ := openTx_of_started hdisabled htx hstart
    simp only [step, hopen]
    exact ⟨_, rfl, rfl, rfl⟩
  · obtain ⟨id, ha⟩ := hconsistent.accounted h hh
    exact ⟨id, ha.given, ha.started, ha.before, ha.after⟩

-- Somebody else has a session. The first attempt fails with its session, the second
-- lasts until its commit fails, a third one is refused meanwhile, and the next is
-- dropped.
def troubled : List Action :=
  [.meanwhile (.perform none .startSession), .meanwhile (.failNext "start_session"), .openTx, .openTx, .openTx,
    .execute (some 0) [.table "staff", .insert] { data := some [("_id", .int32 1)] },
    .meanwhile (.failNext "commit_transaction"), .finish 0 .commit, .openTx, .abandon 1, .openTx]

def afterTrouble : Usage := (start {} .empty).run troubled

theorem transactions_accounted_troubled :
    afterTrouble.handouts.map (·.isLive) = [false, false, true] ∧ afterTrouble.conn.isTx = true ∧
      (afterTrouble.step .openTx).handouts = afterTrouble.handouts ∧
      (∃ h, ((start {} .empty).step .openTx).handouts = [h] ∧ h.given = ⟨some ⟨0⟩⟩ ∧ h.isLive = true) ∧
      ∃ h, afterTrouble.handouts[0]? = some h ∧
        (afterTrouble.conn.client.noted.drop h.earlier).countP (·.call.ends ⟨1⟩) = 1 := by
  obtain ⟨_, hrefused, hfailed, _, _, _, haccounted⟩ :=
    transactions_accounted (u := afterTrouble) ⟨{}, .empty, troubled, rfl⟩
  obtain ⟨_, _, _, hopened, _⟩ := transactions_accounted (u := start {} .empty) ⟨{}, .empty, [], rfl⟩
  obtain ⟨e, herror⟩ := hrefused (Or.inr rfl)
  refine ⟨rfl, rfl, (hfailed e _ herror).1, ?_, _, rfl, ?_⟩
  · exact hopened ⟨0⟩ rfl rfl rfl
  · obtain ⟨id, hgiven, _, _, hafter⟩ := haccounted _ List.mem_cons_self
    cases hgiven
    exact hafter

end Usage

end Connection

end DocStore
