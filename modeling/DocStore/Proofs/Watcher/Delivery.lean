import DocStore.Proofs.Client
import DocStore.Proofs.Store.Publication
import DocStore.Watcher

namespace DocStore

namespace Watcher

-- Whether the listener is in its loop.
def isListening (w : Watcher) : Bool :=
  match w.listening with
  | .leaving => false
  | .ended => false
  | _ => true

-- The event that the listener has taken and not passed on.
def held (w : Watcher) : List Document :=
  match w.listening with
  | .holding event => [event]
  | _ => []

-- The events that wait with the subscription.
def waiting (w : Watcher) (s : Store) : List Document :=
  match s.subscriptions[w.subscription.index]? with
  | some sub => sub.pending
  | none => []

end Watcher

-- A watcher at work: beside it and the store, the journal of the calls and what has
-- been handed out are kept.
structure Delivery where
  store : Store
  watcher : Watcher
  journal : Journal := {}
  handed : List Document := []

namespace Delivery

-- What can happen between any two actions: a call to the store, an action of the
-- listener, a read, a request to stop, or the end of the one who reads.
inductive Move where
  | call (step : Step)
  | listen
  | receive
  | receiveMany (n : Nat)
  | askToStop
  | release

def move (d : Delivery) : Move → Delivery
  | .call step => { d with store := d.store.next step, journal := d.journal.after d.store step }
  | .listen =>
    let (watcher, store) := d.watcher.listen d.store
    { d with watcher, store }
  | .receive =>
    let (event, watcher) := d.watcher.receive
    { d with watcher, handed := d.handed ++ event.toList }
  | .receiveMany n =>
    let (events, watcher) := d.watcher.receiveMany n
    { d with watcher, handed := d.handed ++ events }
  | .askToStop => { d with watcher := d.watcher.askToStop }
  | .release => { d with watcher := d.watcher.release }

def moves (d : Delivery) (ms : List Move) : Delivery := ms.foldl move d

-- The events of the watched collection that have been published.
def published (d : Delivery) : List Announcement := d.journal.publishedOf d.watcher.collection

-- The events that the listener has taken over, handed out or not.
def taken (d : Delivery) : List Document := d.handed ++ d.watcher.forwarded ++ d.watcher.held

structure Sound (d : Delivery) : Prop where
  accounts : d.journal.Accounts d.store
  inOrder : d.taken <+: d.published.map (·.event)
  -- In its loop the listener has an open subscription, with which the rest waits.
  complete : d.watcher.isListening = true →
    ∃ waiting, d.store.subscriptions[d.watcher.subscription.index]? =
        some ⟨d.watcher.collection, waiting, true⟩ ∧
      d.taken ++ waiting = d.published.map (·.event)

section

variable {d e : Delivery}

theorem published_append (name : String) (j : Journal) (s : Store) (step : Step) :
    ((j.after s step).publishedOf name).map (·.event) =
      (j.publishedOf name).map (·.event) ++ heard name ((j.publishes s step).map Announcement.told) := by
  rw [heard_told]
  simp only [Journal.publishedOf, Journal.after, List.filter_append, List.map_append]

theorem Sound.call (h : d.Sound) (step : Step) : (d.move (.call step)).Sound := by
  have hpublished : (d.move (.call step)).published.map (·.event) = d.published.map (·.event) ++
      heard d.watcher.collection ((d.journal.publishes d.store step).map Announcement.told) :=
    published_append d.watcher.collection d.journal d.store step
  refine ⟨h.accounts.next step, ?_, fun hlistening => ?_⟩
  · rw [hpublished]
    exact h.inOrder.trans (List.prefix_append _ _)
  · obtain ⟨waiting, hsub, hall⟩ := h.complete hlistening
    refine ⟨_, h.accounts.pending_next hsub, ?_⟩
    rw [hpublished, ← hall, List.append_assoc]
    rfl

-- Events that only move on, from the listener to the watcher or from there to the
-- reader, are still the same.
theorem Sound.of_taken (h : d.Sound) (hstore : e.store = d.store) (hjournal : e.journal = d.journal)
    (hcollection : e.watcher.collection = d.watcher.collection)
    (hsubscription : e.watcher.subscription = d.watcher.subscription)
    (hlistening : e.watcher.isListening = true → d.watcher.isListening = true)
    (htaken : e.taken = d.taken) : e.Sound := by
  have hpublished : e.published = d.published := by rw [published, hjournal, hcollection, published]
  refine ⟨?_, ?_, fun hloop => ?_⟩
  · rw [hstore, hjournal]
    exact h.accounts
  · rw [hpublished, htaken]
    exact h.inOrder
  · rw [hpublished, htaken, hstore, hcollection, hsubscription]
    exact h.complete (hlistening hloop)

-- Reading takes from the front of what was passed on.
theorem Sound.read (h : d.Sound) {events rest : List Document}
    (hforwarded : d.watcher.forwarded = events ++ rest) :
    Sound { d with watcher := { d.watcher with forwarded := rest }, handed := d.handed ++ events } := by
  refine h.of_taken rfl rfl rfl rfl id ?_
  simp only [taken, hforwarded, List.append_assoc]
  rfl

-- In the loop an event comes over from the subscription if one waits there.
theorem Sound.poll (h : d.Sound) (hl : d.watcher.listening = .polling) : (d.move .listen).Sound := by
  have hloop : d.watcher.isListening = true := by rw [Watcher.isListening, hl]
  have hheld : d.watcher.held = [] := by rw [Watcher.held, hl]
  obtain ⟨waiting, hsub, hall⟩ := h.complete hloop
  cases waiting with
  | nil =>
      have hnext : d.store.nextEvent d.watcher.subscription = (.ok none, d.store) := by
        simp only [Store.nextEvent, hsub]
        rfl
      have hmove : d.move .listen = { d with watcher := { d.watcher with listening := .checking } } := by
        simp only [move, Watcher.listen, hl, hnext]
      rw [hmove]
      refine h.of_taken rfl rfl rfl rfl (fun _ => hloop) ?_
      simp only [taken, hheld]
      rfl
  | cons event rest =>
      have hnext : d.store.nextEvent d.watcher.subscription = (.ok (some event),
          d.store.setSubscription d.watcher.subscription ⟨d.watcher.collection, rest, true⟩) := by
        simp only [Store.nextEvent, hsub]
        rfl
      have hmove : d.move .listen =
          { d with
            watcher := { d.watcher with listening := .holding event }
            store := d.store.setSubscription d.watcher.subscription ⟨d.watcher.collection, rest, true⟩ } := by
        simp only [move, Watcher.listen, hl, hnext]
      have htaken : (d.move .listen).taken = d.taken ++ [event] := by
        rw [hmove]
        simp only [taken, hheld, List.append_nil]
        rfl
      have hall' : (d.move .listen).taken ++ rest = d.published.map (·.event) := by
        rw [htaken, List.append_assoc]
        exact hall
      have hpublished : (d.move .listen).published = d.published := by
        rw [hmove]
        rfl
      refine ⟨?_, ?_, fun _ => ⟨rest, ?_, ?_⟩⟩
      · rw [hmove]
        exact h.accounts.of_sessions rfl rfl
      · rw [hpublished]
        exact ⟨rest, hall'⟩
      · obtain ⟨hlt, _⟩ := List.getElem?_eq_some_iff.mp hsub
        rw [hmove]
        exact List.getElem?_set_self hlt
      · rw [hpublished]
        exact hall'

-- Whatever the listener does next, no event is lost, told twice or overtaken.
theorem Sound.listen (h : d.Sound) : (d.move .listen).Sound := by
  cases hl : d.watcher.listening with
  | checking =>
      have hloop : d.watcher.isListening = true := by rw [Watcher.isListening, hl]
      have hheld : d.watcher.held = [] := by rw [Watcher.held, hl]
      refine h.of_taken ?_ ?_ ?_ ?_ (fun _ => hloop) ?_
      all_goals simp only [move, Watcher.listen, hl]
      simp only [taken, hheld]
      cases d.watcher.isAskedToStop <;> rfl
  | polling => exact h.poll hl
  | holding event =>
      have hloop : d.watcher.isListening = true := by rw [Watcher.isListening, hl]
      have hheld : d.watcher.held = [event] := by rw [Watcher.held, hl]
      by_cases hheard : d.watcher.isHeard = true
      · have hmove : d.move .listen =
            { d with watcher :=
              { d.watcher with listening := .checking, forwarded := d.watcher.forwarded ++ [event] } } := by
          simp only [move, Watcher.listen, hl, hheard, if_true]
        rw [hmove]
        refine h.of_taken rfl rfl rfl rfl (fun _ => hloop) ?_
        simp only [taken, hheld, ← List.append_assoc]
        exact List.append_nil _
      · -- The event goes nowhere, and neither does any other one.
        have hmove : d.move .listen = { d with watcher := { d.watcher with listening := .leaving } } := by
          simp only [move, Watcher.listen, hl, hheard]
          rfl
        rw [hmove]
        refine ⟨h.accounts, ?_, fun hleft => by cases hleft⟩
        have hshorter : d.handed ++ d.watcher.forwarded ++ [] <+: d.taken := by
          rw [List.append_nil]
          exact List.prefix_append _ _
        exact hshorter.trans h.inOrder
  | leaving =>
      have hheld : d.watcher.held = [] := by rw [Watcher.held, hl]
      have hmove : d.move .listen =
          { d with
            watcher := { d.watcher with listening := .ended }
            store := d.store.closeSubscription d.watcher.subscription } := by
        simp only [move, Watcher.listen, hl]
      rw [hmove]
      refine ⟨?_, ?_, fun hleft => by cases hleft⟩
      · refine h.accounts.of_sessions ?_ ?_
        all_goals
          simp only [Store.closeSubscription]
          split <;> rfl
      · have hinOrder := h.inOrder
        simp only [taken, hheld] at hinOrder
        exact hinOrder
  | ended =>
      have hmove : d.move .listen = d := by simp only [move, Watcher.listen, hl]
      rw [hmove]
      exact h

-- One step.
theorem Sound.move (h : d.Sound) (m : Move) : (d.move m).Sound := by
  cases m with
  | call step => exact h.call step
  | listen => exact h.listen
  | receive =>
      cases hforwarded : d.watcher.forwarded with
      | nil =>
          have hmove : d.move .receive = d := by
            simp only [Delivery.move, Watcher.receive, hforwarded, Option.toList_none, List.append_nil]
          rw [hmove]
          exact h
      | cons event rest =>
          have hsplit : d.watcher.forwarded = [event] ++ rest := hforwarded
          have hread := h.read hsplit
          simp only [Delivery.move, Watcher.receive, hforwarded]
          exact hread
  | receiveMany n => exact h.read (List.take_append_drop n d.watcher.forwarded).symm
  | askToStop => exact h.of_taken rfl rfl rfl rfl id rfl
  | release => exact h.of_taken rfl rfl rfl rfl id rfl

theorem Sound.moves (h : d.Sound) (ms : List Move) : (d.moves ms).Sound := by
  induction ms generalizing d with
  | nil => exact h
  | cons m rest ih => exact ih (h.move m)

-- The listener is in its loop unless it was asked to leave it or has nobody to hear it.
def Stays (d : Delivery) : Prop :=
  d.watcher.isListening = true ∨ d.watcher.isAskedToStop = true ∨ d.watcher.isHeard = false

theorem Sound.stays_listen (h : d.Sound) (hs : d.Stays) : (d.move .listen).Stays := by
  cases hl : d.watcher.listening with
  | checking =>
      cases hasked : d.watcher.isAskedToStop with
      | true => exact .inr (.inl (by simp only [Delivery.move, Watcher.listen, hl, hasked]))
      | false => exact .inl (by simp [Delivery.move, Watcher.listen, hl, hasked, Watcher.isListening])
  | polling =>
      obtain ⟨waiting, hsub, _⟩ := h.complete (by rw [Watcher.isListening, hl])
      refine .inl ?_
      cases waiting <;> simp [Delivery.move, Watcher.listen, hl, Store.nextEvent, hsub, Watcher.isListening]
  | holding event =>
      cases hheard : d.watcher.isHeard with
      | true => exact .inl (by simp [Delivery.move, Watcher.listen, hl, hheard, Watcher.isListening])
      | false => exact .inr (.inr (by simp [Delivery.move, Watcher.listen, hl, hheard]))
  | leaving | ended =>
      have hout : d.watcher.isListening = false := by rw [Watcher.isListening, hl]
      rcases hs with hloop | hasked | hheard
      · rw [hout] at hloop
        cases hloop
      · exact .inr (.inl (by simp only [Delivery.move, Watcher.listen, hl, hasked]))
      · exact .inr (.inr (by simp only [Delivery.move, Watcher.listen, hl, hheard]))

theorem Sound.stays_moves (h : d.Sound) (hs : d.Stays) (ms : List Move) : (d.moves ms).Stays := by
  induction ms generalizing d with
  | nil => exact hs
  | cons m rest ih =>
      refine ih (h.move m) ?_
      cases m with
      | listen => exact h.stays_listen hs
      | askToStop => exact .inr (.inl rfl)
      | release => exact .inr (.inr rfl)
      | call | receiveMany => exact hs
      | receive =>
          simp only [Stays, Delivery.move, Watcher.receive]
          split <;> exact hs

end

end Delivery

section

variable {client started : Client} {name : String} {w : Watcher} {j : Journal}

-- Starting a watcher opens a subscription, with which nothing waits yet.
theorem Watcher.start_of_ok (h : Watcher.start name client = (.ok w, started)) :
    w = { collection := name, subscription := ⟨client.store.subscriptions.length⟩ } ∧
      started.store.subscriptions = client.store.subscriptions ++ [{ collection := name }] ∧
      started.store.sessions = client.store.sessions ∧
      started.store.sessionsStarted = client.store.sessionsStarted := by
  by_cases hf : client.store.failing = some "watch"
  · have hperform : client.store.perform none (.watch name) = _ := Store.perform_of_failing hf
    have hrefused : ∃ e after,
        Client.issue none "unable to watch" (.watch name) client = (.error e, after) := by
      simp only [Client.issue, Client.note, hperform]
      exact ⟨_, _, rfl⟩
    obtain ⟨e, after, hissue⟩ := hrefused
    rw [Watcher.start, ClientM.bind_of_error _ hissue] at h
    cases h
  · have hperform : client.store.perform none (.watch name) = _ := Store.perform_of_ready hf
    let counted : Store := { client.store with operations := client.store.operations + 1 }
    have hissue : Client.issue none "unable to watch" (.watch name) client =
        (.ok ⟨client.store.subscriptions.length⟩,
          { client.note (.watch name) false with store := (counted.subscribe name).2 }) := by
      simp only [Client.issue, Client.note, hperform]
      rfl
    rw [Watcher.start, ClientM.bind_of_ok _ hissue] at h
    cases h
    exact ⟨rfl, rfl, rfl, rfl⟩

-- A watcher that has just been started, beside the journal of what came before.
def Delivery.ofStart (started : Client) (w : Watcher) (j : Journal) : Delivery :=
  { store := started.store, watcher := w, journal := j.opened }

theorem Delivery.sound_ofStart (haccounts : j.Accounts client.store)
    (hstart : Watcher.start name client = (.ok w, started)) : (Delivery.ofStart started w j).Sound := by
  obtain ⟨rfl, hsubs, hsessions, hcount⟩ := Watcher.start_of_ok hstart
  refine ⟨haccounts.opened.of_sessions hsessions hcount, List.nil_prefix, fun _ => ⟨[], ?_, rfl⟩⟩
  simp only [Delivery.ofStart, hsubs]
  exact List.getElem?_concat_length

theorem Watcher.waiting_of_open {s : Store} {waiting : List Document}
    (h : s.subscriptions[w.subscription.index]? = some ⟨name, waiting, true⟩) : w.waiting s = waiting := by
  simp only [Watcher.waiting, h]

end

namespace Delivery

-- A watcher keeps to the collection that it was started on.
@[simp] theorem collection_moves (d : Delivery) (ms : List Move) :
    (d.moves ms).watcher.collection = d.watcher.collection := by
  induction ms generalizing d with
  | nil => rfl
  | cons m rest ih =>
      refine (ih (d.move m)).trans ?_
      cases m with
      | listen =>
          simp only [Delivery.move, Watcher.listen]
          repeat' split
          all_goals rfl
      | receive =>
          simp only [Delivery.move, Watcher.receive]
          split <;> rfl
      | _ => rfl

-- Whatever is called, passed on, read and asked for, and in whatever order, since a
-- watcher was started: what it has handed out is the beginning of what has been published
-- of its collection, in that order, with nothing of another collection or of an aborted
-- session; and while its listener is in its loop, as it is until it is asked to stop or
-- nobody hears it, the rest is on its way.
theorem handed_is_beginning_of_published {s : Store} (hfresh : ∀ id, s.session? id = none)
    {before : List Step} {client started : Client} {name : String} {w : Watcher}
    (hclient : client.store = s.run before)
    (hstart : Watcher.start name client = (.ok w, started)) (ms : List Move) :
    let d := (ofStart started w (Journal.along {} s before)).moves ms
    (∃ given, given <+: d.journal.publishedOf name ∧ given.map (·.event) = d.handed ∧
      ∀ a ∈ given, a.collection = name ∧ ∀ id ∈ d.journal.aborted, a.session ≠ some id) ∧
    (d.watcher.isListening = true →
      d.handed ++ d.watcher.forwarded ++ d.watcher.held ++ d.watcher.waiting d.store =
        (d.journal.publishedOf name).map (·.event)) ∧
    (d.watcher.isListening = true ∨ d.watcher.isAskedToStop = true ∨ d.watcher.isHeard = false) := by
  intro d
  have haccounts : (Journal.along {} s before).Accounts client.store :=
    hclient ▸ (Journal.accounts_of_no_session hfresh).along before
  have hbegins := sound_ofStart haccounts hstart
  have hsound : d.Sound := hbegins.moves ms
  have hname : d.watcher.collection = name := by
    rw [collection_moves]
    exact congrArg Watcher.collection (Watcher.start_of_ok hstart).1
  have hpublished : d.published = d.journal.publishedOf name := by rw [published, hname]
  refine ⟨?_, fun hlistening => ?_, hbegins.stays_moves (.inl ?_) ms⟩
  · have hhanded : d.handed <+: (d.journal.publishedOf name).map (·.event) := by
      rw [← hpublished]
      refine List.IsPrefix.trans ?_ hsound.inOrder
      rw [taken, List.append_assoc]
      exact List.prefix_append _ _
    obtain ⟨given, hgiven, hmap⟩ := List.prefix_map_iff.mp hhanded
    refine ⟨given, hgiven, hmap.symm, fun a ha => ?_⟩
    obtain ⟨hmem, hcollection⟩ := List.mem_filter.mp (hgiven.subset ha)
    refine ⟨by simpa using hcollection, fun id hid hsession => ?_⟩
    exact (hsound.accounts.published a hmem id hsession).2 hid
  · obtain ⟨waiting, hsub, hall⟩ := hsound.complete hlistening
    rw [Watcher.waiting_of_open hsub, ← hpublished]
    exact hall
  · exact congrArg Watcher.isListening (Watcher.start_of_ok hstart).1

-- A watcher is started while a session is on; its listener is asked to stop with one
-- event in hand and another one waiting.
def watchedBefore : List Step :=
  [
    { call := .insertOne "c" [("_id", .int32 1)] },
    { call := .startSession },
    { session := some ⟨0⟩, call := .insertOne "c" [("_id", .int32 2)] }
  ]

def watchedClient : Client := { store := Store.empty.run watchedBefore }

def watchedMoves : List Move :=
  [
    .call { call := .insertOne "c" [("_id", .int32 3)] },
    .listen,
    .listen,
    .call { call := .commitTransaction ⟨0⟩ },
    .call { call := .startSession },
    .call { session := some ⟨1⟩, call := .insertOne "c" [("_id", .int32 4)] },
    .call { call := .insertOne "d" [("_id", .int32 5)] },
    .listen,
    .call { call := .abortTransaction ⟨1⟩ },
    .receive,
    .listen,
    .listen,
    .askToStop,
    .call { call := .insertOne "c" [("_id", .int32 6)] }
  ]

theorem handed_is_beginning_of_published_watched :
    let w : Watcher := { collection := "c", subscription := ⟨0⟩ }
    let started := (Watcher.start "c" watchedClient).2
    let d := (ofStart started w (Journal.along {} Store.empty watchedBefore)).moves watchedMoves
    (∀ id, Store.empty.session? id = none) ∧ watchedClient.store = Store.empty.run watchedBefore ∧
      Watcher.start "c" watchedClient = (.ok w, started) ∧
      ((∃ given, given <+: d.journal.publishedOf "c" ∧ given.map (·.event) = d.handed ∧
        ∀ a ∈ given, a.collection = "c" ∧ ∀ id ∈ d.journal.aborted, a.session ≠ some id) ∧
      (d.watcher.isListening = true →
        d.handed ++ d.watcher.forwarded ++ d.watcher.held ++ d.watcher.waiting d.store =
          (d.journal.publishedOf "c").map (·.event)) ∧
      (d.watcher.isListening = true ∨ d.watcher.isAskedToStop = true ∨ d.watcher.isHeard = false)) ∧
      d.watcher.isListening = true ∧ d.journal.aborted = [⟨1⟩] ∧
      (d.journal.publishedOf "c").map (·.session) = [none, some ⟨0⟩, none] ∧
      d.handed.length = 1 ∧ d.watcher.held.length = 1 ∧ (d.watcher.waiting d.store).length = 1 := by
  have hfresh : ∀ id, Store.empty.session? id = none := fun _ => rfl
  have hclient : watchedClient.store = Store.empty.run watchedBefore := rfl
  have hstart : Watcher.start "c" watchedClient =
      (.ok { collection := "c", subscription := ⟨0⟩ }, (Watcher.start "c" watchedClient).2) := rfl
  refine ⟨hfresh, hclient, hstart, handed_is_beginning_of_published hfresh hclient hstart watchedMoves, ?_⟩
  decide +kernel

end Delivery

end DocStore
