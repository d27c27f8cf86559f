import DocStore.Execute

namespace DocStore

-- One transaction is open at a time, and each gives its session up once, when it is
-- committed, rolled back or abandoned.
structure Connection where
  config : Config := {}
  client : Client := {}
  -- Whether a transaction is open.
  isTx : Bool := false

structure Transaction where
  -- Gone once the transaction has ended.
  session : Option SessionId
  deriving DecidableEq

-- How a transaction ends.
inductive Ending where
  | commit
  | rollback
  deriving DecidableEq

namespace Ending

def activity : Ending → String
  | commit => "unable to commit transaction"
  | rollback => "unable to rollback transaction"

def call : Ending → SessionId → Call
  | commit, id => .commitTransaction id
  | rollback, id => .abortTransaction id

end Ending

namespace Connection

-- An operation runs in the session of its transaction, if it has one.
def scope (conn : Connection) (tx : Option Transaction) : Scope :=
  { config := conn.config, session := tx.bind (·.session) }

-- Lets an action happen to the client of the connection.
def act {α : Type} (conn : Connection) (action : ClientM α) : Except DbError α × Connection :=
  let (result, client) := action conn.client
  (result, { conn with client })

def cursor (conn : Connection) (tx : Option Transaction) (clauses : List Clause) : Cursor × Connection :=
  let (c, client) := Cursor.ofQuery (conn.scope tx) clauses conn.client
  (c, { conn with client })

def execute (conn : Connection) (tx : Option Transaction) (clauses : List Clause) (params : Params) :
    Except DbError ExecResult × Connection :=
  conn.act (Execute.run (conn.scope tx) clauses params)

def dropCollection (conn : Connection) (name : String) : Except DbError Unit × Connection :=
  conn.act (Client.issue none "unable to drop collection" (.dropCollection name))

def collectionNames (conn : Connection) : Except DbError (List String) × Connection :=
  conn.act (Client.issue none "unable to list collections" .collectionNames)

def disableTx (conn : Connection) (disabled : Bool) : Connection :=
  { conn with config := { conn.config with disableTx := disabled } }

def supportsTx (conn : Connection) : Bool := !conn.config.disableTx

-- Opens a transaction, unless one is open. It is open only if its session starts.
def openTx (conn : Connection) : Except DbError Transaction × Connection :=
  if conn.config.disableTx then (.error (.transaction .disabled), conn)
  else if conn.isTx then (.error (.transaction .alreadyActive), conn)
  else
    match conn.act (Client.issue none "unable to start transaction" .startSession) with
    | (.ok id, conn) => (.ok ⟨some id⟩, { conn with isTx := true })
    | (.error e, conn) => (.error e, conn)

end Connection

namespace Transaction

-- Ends the transaction, which is over even if the store refuses.
def finish (tx : Transaction) (ending : Ending) (conn : Connection) :
    Except DbError Unit × Transaction × Connection :=
  match tx.session with
  | none => (.ok (), tx, conn)
  | some id =>
    let (result, conn) := conn.act (Client.issue none ending.activity (ending.call id))
    (result.map fun _ => (), ⟨none⟩, { conn with isTx := false })

def commit (tx : Transaction) (conn : Connection) : Except DbError Unit × Transaction × Connection :=
  tx.finish .commit conn

def rollback (tx : Transaction) (conn : Connection) : Except DbError Unit × Transaction × Connection :=
  tx.finish .rollback conn

-- Rolls back a transaction that nobody ended. Whether that works is not told.
def abandon (tx : Transaction) (conn : Connection) : Transaction × Connection :=
  (tx.finish .rollback conn).2

end Transaction

end DocStore
