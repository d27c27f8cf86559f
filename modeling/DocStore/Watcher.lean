import DocStore.Client

namespace DocStore

-- Where the listener of a watcher is in its round. What it does is cut into actions,
-- between which anything else can happen.
inductive Listening where
  -- About to look whether it was asked to stop.
  | checking
  -- About to ask for the next event.
  | polling
  -- About to pass on the event that it took.
  | holding (event : Document)
  -- Out of the loop, about to end its subscription.
  | leaving
  | ended

structure Watcher where
  collection : String
  subscription : SubscriptionId
  -- Events that were taken over and not yet handed out.
  forwarded : List Document := []
  listening : Listening := .checking
  isAskedToStop : Bool := false
  -- Whether someone is left to hand events out to.
  isHeard : Bool := true

namespace Watcher

def start (collection : String) : ClientM Watcher := do
  let subscription ← Client.issue none "unable to watch" (.watch collection)
  return { collection, subscription }

-- The next action of the listener. To find no event is to have waited in vain.
def listen (w : Watcher) (s : Store) : Watcher × Store :=
  match w.listening with
  | .checking => ({ w with listening := if w.isAskedToStop then .leaving else .polling }, s)
  | .polling =>
    match s.nextEvent w.subscription with
    | (.ok (some event), s) => ({ w with listening := .holding event }, s)
    | (.ok none, s) => ({ w with listening := .checking }, s)
    | (.error _, s) => ({ w with listening := .leaving }, s)
  | .holding event =>
    if w.isHeard then ({ w with listening := .checking, forwarded := w.forwarded ++ [event] }, s)
    else ({ w with listening := .leaving }, s)
  | .leaving => ({ w with listening := .ended }, s.closeSubscription w.subscription)
  | .ended => (w, s)

def listenFor : Nat → Watcher → Store → Watcher × Store
  | 0, w, s => (w, s)
  | n + 1, w, s =>
    let (w, s) := w.listen s
    listenFor n w s

-- How many events wait to be taken over.
def pending (w : Watcher) (s : Store) : Nat :=
  match s.subscriptions[w.subscription.index]? with
  | some sub => sub.pending.length
  | none => 0

-- Lets the listener take over all that waits, in a round of three actions each.
def catchUp (w : Watcher) (s : Store) : Watcher × Store := listenFor (3 * w.pending s) w s

-- Hands out the next event.
def receive (w : Watcher) : Option Document × Watcher :=
  match w.forwarded with
  | [] => (none, w)
  | event :: rest => (some event, { w with forwarded := rest })

-- Hands out up to `n` events, as far as they have been taken over.
def receiveMany (w : Watcher) (n : Nat) : List Document × Watcher :=
  (w.forwarded.take n, { w with forwarded := w.forwarded.drop n })

def askToStop (w : Watcher) : Watcher := { w with isAskedToStop := true }

-- Leaves what was not handed out; nothing is passed on any more.
def release (w : Watcher) : Watcher := { w with isHeard := false }

-- Asks the listener to stop and waits for it, which takes four actions at most.
def stop (w : Watcher) (s : Store) : Watcher × Store :=
  let (w, s) := listenFor 4 w.askToStop s
  (w.release, s)

end Watcher

end DocStore
