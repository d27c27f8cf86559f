import DocStore.Config
import DocStore.Store.Call

namespace DocStore

structure NotedCall where
  call : Call
  -- Whether the call is made in a session.
  isBound : Bool

-- How the answer of a cursor is come by.
inductive CursorMode where
  | aggregate
  | command
  | find
  deriving DecidableEq

def CursorMode.word : CursorMode → String
  | aggregate => "aggregate"
  | command => "command"
  | find => "find"

inductive TraceEvent where
  | cursor (mode : CursorMode) (collection : String) (isOk : Bool)
  | execute (kind : CommandKind) (collection : String) (isBound isOk : Bool)
  deriving DecidableEq

namespace TraceEvent

def collection : TraceEvent → String
  | cursor _ collection _ => collection
  | execute _ collection _ _ => collection

def isOk : TraceEvent → Bool
  | cursor _ _ isOk => isOk
  | execute _ _ _ isOk => isOk

end TraceEvent

-- Every call to the store is noted before it is made, and what cursors and commands did is
-- traced.
structure Client where
  store : Store := {}
  noted : List NotedCall := []
  trace : List TraceEvent := []

abbrev ClientM := ExceptT DbError (StateM Client)

namespace Client

def note (client : Client) (c : Call) (isBound : Bool) : Client :=
  { client with noted := client.noted ++ [⟨c, isBound⟩] }

def emit (client : Client) (event : TraceEvent) : Client :=
  { client with trace := client.trace ++ [event] }

-- Makes a call; a failure is reported with what the call was for.
def issue (session : Option SessionId) (activity : String) (c : Call) : ClientM c.Answer :=
  fun client =>
    let client := client.note c (c.isBound session)
    match client.store.perform session c with
    | (.ok answer, store) => (.ok answer, { client with store })
    | (.error e, store) => (.error (.store activity e), { client with store })

-- Lets something happen to the store that is not a call.
def onStore {α : Type} (activity : String) (f : Store → Except StoreError α × Store) : ClientM α :=
  fun client =>
    match f client.store with
    | (.ok a, store) => (.ok a, { client with store })
    | (.error e, store) => (.error (.store activity e), { client with store })

end Client

structure Scope where
  config : Config
  session : Option SessionId := none

namespace Scope

def isBound (scope : Scope) : Bool := scope.session.isSome

def issue (scope : Scope) (activity : String) (c : Call) : ClientM c.Answer :=
  Client.issue scope.session activity c

end Scope

end DocStore
