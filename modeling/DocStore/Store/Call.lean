import DocStore.Store.Blob
import DocStore.Store.Command

namespace DocStore

inductive Call where
  | find (collection : String) (filter : Document) (options : FindOptions)
  | aggregate (collection : String) (stages : List Document) (allowDiskUse : Bool)
  | runCommand (command : Document)
  | runCommandCursor (command : Document)
  | insertOne (collection : String) (document : Document)
  | updateMany (collection : String) (filter update : Document) (upsert : Bool)
  | updateOne (collection : String) (filter update : Document) (upsert : Bool)
  | replaceOne (collection : String) (filter replacement : Document) (upsert : Bool)
  | deleteMany (collection : String) (filter : Document)
  | distinct (collection field : String) (filter : Document)
  | countDocuments (collection : String) (filter : Document)
  | dropCollection (collection : String)
  | collectionNames
  | startSession
  | commitTransaction (id : SessionId)
  | abortTransaction (id : SessionId)
  | bucket (name : String) (chunkSize : Nat)
  | watch (collection : String)

namespace Call

def name : Call → String
  | find .. => "find"
  | aggregate .. => "aggregate"
  | runCommand _ => "run_command"
  | runCommandCursor _ => "run_command_cursor"
  | insertOne .. => "insert_one"
  | updateMany .. => "update_many"
  | updateOne .. => "update_one"
  | replaceOne .. => "replace_one"
  | deleteMany .. => "delete_many"
  | distinct .. => "distinct"
  | countDocuments .. => "count_documents"
  | dropCollection _ => "drop_collection"
  | collectionNames => "collection_names"
  | startSession => "start_session"
  | commitTransaction _ => "commit_transaction"
  | abortTransaction _ => "abort_transaction"
  | bucket .. => "bucket"
  | watch _ => "watch"

abbrev Answer : Call → Type
  | find .. => ResultStream
  | aggregate .. => ResultStream
  | runCommand _ => Document
  | runCommandCursor _ => ResultStream
  | insertOne .. => Value
  | updateMany .. => UpdateReport
  | updateOne .. => UpdateReport
  | replaceOne .. => UpdateReport
  | deleteMany .. => Nat
  | distinct .. => List Value
  | countDocuments .. => Nat
  | dropCollection _ => Unit
  | collectionNames => List String
  | startSession => SessionId
  | commitTransaction _ => Unit
  | abortTransaction _ => Unit
  | bucket .. => Bucket
  | watch _ => SubscriptionId

-- Whether the call is made in a session, `session` being that of the caller.
-- Some calls know of none, and the last two name their own.
def isBound (c : Call) (session : Option SessionId) : Bool :=
  match c with
  | dropCollection _ => false
  | collectionNames => false
  | startSession => false
  | bucket .. => false
  | watch _ => false
  | commitTransaction _ => true
  | abortTransaction _ => true
  | _ => session.isSome

end Call

namespace Store

def streamOf (docs : Except StoreError (List Document)) : Except StoreError ResultStream :=
  docs.map fun rest => { rest }

-- The answer to a call that has been let in.
def answer (s : Store) (session : Option SessionId) : (c : Call) → Except StoreError c.Answer × Store
  | .find name filter options => (streamOf (s.findIn session name filter options), s)
  | .aggregate name stages _ => (streamOf (s.aggregateIn session name stages), s)
  | .runCommand command => s.runCommand session command
  | .runCommandCursor command => (streamOf ((s.runCursorCommand session command).map (·.2)), s)
  | .insertOne name d => s.writeFresh session name (Collection.insertOne name d)
  | .updateMany name filter update upsert =>
    s.writeFresh session name (Collection.update name filter update upsert false)
  | .updateOne name filter update upsert =>
    s.writeFresh session name (Collection.update name filter update upsert true)
  | .replaceOne name filter replacement upsert =>
    s.writeFresh session name (Collection.replaceOne name filter replacement upsert)
  | .deleteMany name filter => s.write session name (Collection.deleteMany name filter)
  | .distinct name field filter => (s.distinctIn session name field filter, s)
  | .countDocuments name filter => (s.countIn session name filter, s)
  | .dropCollection name => (.ok (), s.dropCollection name)
  | .collectionNames => (.ok s.collectionNames, s)
  | .startSession => (.ok s.startSession.1, s.startSession.2)
  | .commitTransaction id => s.commit id
  | .abortTransaction id => s.abort id
  | .bucket name chunkSize => (.ok ⟨name, chunkSize⟩, s)
  | .watch name => (.ok (s.subscribe name).1, (s.subscribe name).2)

-- Counts the call and answers it, unless it was asked to fail.
def perform (s : Store) (session : Option SessionId) (c : Call) : Except StoreError c.Answer × Store :=
  match s.enter c.name with
  | (.ok _, s) => s.answer session c
  | (.error e, s) => (.error e, s)

end Store

end DocStore
