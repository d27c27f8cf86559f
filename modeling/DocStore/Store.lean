import DocStore.Store.Collection

namespace DocStore

abbrev Collections := OrderedMap (List Document)

def Collections.documents (c : Collections) (name : String) : List Document := c.getD name []

-- A session reads and writes a snapshot of its own. Committing it publishes the snapshot as
-- it stands, and the events of its writes with it.
structure Session where
  data : Collections
  -- Collections and events of the writes so far.
  events : List (String × Document) := []

structure SubscriptionId where
  index : Nat
  deriving DecidableEq

structure Subscription where
  collection : String
  pending : List Document := []
  isOpen : Bool := true

def Subscription.receive (sub : Subscription) (event : String × Document) : Subscription :=
  if sub.isOpen && sub.collection == event.1 then { sub with pending := sub.pending ++ [event.2] }
  else sub

structure Blob where
  id : Value
  filename : String
  metadata : Document
  chunkSize : Nat
  data : List UInt8

structure Store where
  committed : Collections := []
  sessions : List (SessionId × Session) := []
  buckets : OrderedMap (List Blob) := []
  subscriptions : List Subscription := []
  -- The call that is to fail next.
  failing : Option String := none
  operations : Nat := 0
  closedStreams : Nat := 0
  closedDownloads : Nat := 0
  -- How many identifiers and how many sessions have been given out.
  identifiers : Nat := 0
  sessionsStarted : Nat := 0

namespace Store

def empty : Store := {}

def failNext (s : Store) (call : String) : Store := { s with failing := some call }

-- Counts a call and lets it fail if that was asked for.
def enter (s : Store) (call : String) : Except StoreError Unit × Store :=
  let s := { s with operations := s.operations + 1 }
  if s.failing = some call then (.error (.injected call), { s with failing := none })
  else (.ok (), s)

def session? (s : Store) (id : SessionId) : Option Session := s.sessions.lookup id

def setSession (s : Store) (id : SessionId) (session : Session) : Store :=
  { s with sessions := s.sessions.map fun entry => if entry.1 = id then (id, session) else entry }

def dropSession (s : Store) (id : SessionId) : Store :=
  { s with sessions := s.sessions.filter fun entry => entry.1 != id }

-- What a call sees: the snapshot of its session, or what is committed.
def view (s : Store) (session : Option SessionId) : Except StoreError Collections :=
  match session with
  | none => .ok s.committed
  | some id =>
    match s.session? id with
    | some session => .ok session.data
    | none => .error (.unknownSession id)

def documents (s : Store) (name : String) : List Document := s.committed.documents name

-- Hands an event to every subscription of its collection.
def announce (s : Store) (event : String × Document) : Store :=
  { s with subscriptions := s.subscriptions.map (·.receive event) }

def publish (s : Store) (events : List (String × Document)) : Store := events.foldl announce s

def eventsOf {α : Type} (name : String) (w : Write α) : List (String × Document) :=
  w.events.map fun event => (name, event)

-- Writes to a collection, which is there from then on. Events go out with a
-- write that succeeds, those of a session when it is committed.
def write {α : Type} (s : Store) (session : Option SessionId) (name : String)
    (f : List Document → Write α) : Except StoreError α × Store :=
  match session with
  | none =>
    let w := f (s.committed.documents name)
    let s := { s with committed := s.committed.insert name w.documents }
    match w.outcome with
    | .ok a => (.ok a, s.publish (eventsOf name w))
    | .error e => (.error e, s)
  | some id =>
    match s.session? id with
    | none => (.error (.unknownSession id), s)
    | some session =>
      let w := f (session.data.documents name)
      let data := session.data.insert name w.documents
      match w.outcome with
      | .ok a => (.ok a, s.setSession id { data, events := session.events ++ eventsOf name w })
      | .error e => (.error e, s.setSession id { session with data })

def fresh (s : Store) : ObjectId := ObjectId.generated s.identifiers

-- A write that may need an identifier for a new document.
def writeFresh {α : Type} (s : Store) (session : Option SessionId) (name : String)
    (f : ObjectId → List Document → Write α) : Except StoreError α × Store :=
  { s with identifiers := s.identifiers + 1 }.write session name (f s.fresh)

def startSession (s : Store) : SessionId × Store :=
  let id : SessionId := ⟨s.sessionsStarted⟩
  (id, { s with
    sessions := s.sessions ++ [(id, { data := s.committed })]
    sessionsStarted := s.sessionsStarted + 1 })

def commit (s : Store) (id : SessionId) : Except StoreError Unit × Store :=
  match s.session? id with
  | none => (.error (.unknownSession id), s)
  | some session =>
    (.ok (), { s.dropSession id with committed := session.data }.publish session.events)

def abort (s : Store) (id : SessionId) : Except StoreError Unit × Store :=
  match s.session? id with
  | none => (.error (.unknownSession id), s)
  | some _ => (.ok (), s.dropSession id)

def dropCollection (s : Store) (name : String) : Store :=
  { s with committed := s.committed.erase name }

def insertName (name : String) : List String → List String
  | [] => [name]
  | other :: rest => if other < name then other :: insertName name rest else name :: other :: rest

def sortedNames (names : List String) : List String := names.foldr insertName []

-- The collections that hold a document, in the order of their names.
def collectionNames (s : Store) : List String :=
  sortedNames ((s.committed.filter (!·.2.isEmpty)).map (·.1))

def subscribe (s : Store) (name : String) : SubscriptionId × Store :=
  (⟨s.subscriptions.length⟩, { s with subscriptions := s.subscriptions ++ [{ collection := name }] })

def setSubscription (s : Store) (id : SubscriptionId) (sub : Subscription) : Store :=
  { s with subscriptions := s.subscriptions.set id.index sub }

-- The next event of a subscription, if there is one.
def nextEvent (s : Store) (id : SubscriptionId) : Except StoreError (Option Document) × Store :=
  match s.subscriptions[id.index]? with
  | none => (.error .changesClosed, s)
  | some sub =>
    if !sub.isOpen then (.error .changesClosed, s)
    else
      match sub.pending with
      | [] => (.ok none, s)
      | event :: rest => (.ok (some event), s.setSubscription id { sub with pending := rest })

def closeSubscription (s : Store) (id : SubscriptionId) : Store :=
  match s.subscriptions[id.index]? with
  | none => s
  | some sub => s.setSubscription id { sub with isOpen := false, pending := [] }

end Store

end DocStore
