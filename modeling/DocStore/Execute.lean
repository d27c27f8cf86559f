import DocStore.Cursor.Open
import DocStore.Execute.Blob
import DocStore.Watcher

namespace DocStore

inductive ExecResult where
  | nothing
  -- The document as stored, with its identifier.
  | inserted (d : Document)
  | updated (report : UpdateReport)
  | deleted (count : Nat)
  -- The identifier of a stored blob.
  | stored (id : Value)
  | copied (report : CopyReport)
  | values (vs : List Value)
  | reply (d : Document)
  | watcher (w : Watcher)

namespace ExecResult

def document? : ExecResult → Option Document
  | inserted d => some d
  | reply d => some d
  | _ => none

def values? : ExecResult → Option (List Value)
  | values vs => some vs
  | _ => none

def watcher? : ExecResult → Option Watcher
  | watcher w => some w
  | _ => none

end ExecResult

namespace Execute

def payload (kind : CommandKind) (params : Params) : Except DbError Document :=
  match params.data with
  | some d => .ok d
  | none => .error (.precondition (.payload kind))

def insert (scope : Scope) (g : GroupedQuery) (params : Params) : ClientM ExecResult := do
  let d := scope.config.fieldNaming.renameKeys (← payload .insert params)
  let id ← scope.issue "unable to insert" (.insertOne g.table d)
  return .inserted (d.insert "_id" id)

-- The fields of a payload that may change.
def allowedFields (allowed : List String) (d : Document) : Document :=
  d.filter fun field =>
    field.1 != "_id" && (allowed.isEmpty || allowed.any (Text.equalIgnoringAsciiCase · field.1))

def setOf (fields : Document) : Document := [("$set", .document fields)]

def update (scope : Scope) (g : GroupedQuery) (selector : Document) (params : Params) :
    ClientM ExecResult := do
  if selector.isEmpty then throw (.precondition .whereForUpdate)
  let data ← payload .update params
  if params.singleUpdate then
    let report ← scope.issue "unable to update" (.updateOne g.table selector (setOf data) false)
    return .updated report
  else
    let fields := allowedFields g.updateFields (scope.config.fieldNaming.renameKeys data)
    if fields.isEmpty then throw (.precondition .updatableFields)
    let report ← scope.issue "unable to update" (.updateMany g.table selector (setOf fields) false)
    return .updated report

def delete (scope : Scope) (g : GroupedQuery) (selector : Document) : ClientM ExecResult := do
  if selector.isEmpty then throw (.precondition .whereForDelete)
  return .deleted (← scope.issue "unable to delete" (.deleteMany g.table selector))

def isIdentifier : Value → Bool
  | .null => false
  | .undefined => false
  | .string s => !s.isEmpty
  | _ => true

def identifierOf (d : Document) : Except DbError Value :=
  match d.id? with
  | some id => if isIdentifier id then .ok id else .error (.precondition .identifier)
  | none => .error (.precondition .identifier)

def save (scope : Scope) (g : GroupedQuery) (params : Params) : ClientM ExecResult := do
  let d := scope.config.fieldNaming.renameKeys (← payload .save params)
  let id ← identifierOf d
  let key : Document := [("_id", id)]
  match scope.config.saveMode with
  | .replace =>
    let report ← scope.issue "unable to save" (.replaceOne g.table key d true)
    return .updated report
  | .merge =>
    let report ← scope.issue "unable to save" (.updateMany g.table key (setOf (d.erase "_id")) true)
    return .updated report

-- The field whose values are asked for: the payload or its `field`.
def distinctField (payload : Value) : Except DbError String := do
  let field ← match payload with
    | .string s => .ok s
    | .document d => .ok ((Document.string? d "field").getD "")
    | _ => .error (.precondition .distinctArgument)
  let field := Text.trim field
  if field.isEmpty then .error (.precondition .distinctField) else return field

def blobCommand (scope : Scope) (g : GroupedQuery) (c : Command) (params : Params) :
    ClientM ExecResult := do
  let options ← BlobOptions.ofPayload c.payload
  let chunkSize := options.chunkSize.getD scope.config.blobChunkSize
  let bucket ← scope.issue "error prepare blob bucket" (.bucket g.table chunkSize)
  match c.name with
  | .blobWrite => return .stored (← Blob.write bucket options params.source)
  | .blobRead => return .copied (← Blob.read bucket options params.output)
  | .blobRemove =>
    Blob.remove bucket options
    return .nothing
  | .blobTruncate =>
    Blob.truncate bucket
    return .nothing
  | name => throw (.dispatch (.invalidCommand name))

def command (scope : Scope) (g : GroupedQuery) (c : Command) (selector : Document) (params : Params) :
    ClientM ExecResult :=
  if c.name.isBlob then blobCommand scope g c params
  else
    match c.name with
    | .distinct => do
      let field ← distinctField c.payload
      return .values (← scope.issue "unable to get distinct values" (.distinct g.table field selector))
    | .command =>
      match c.payload with
      | .document command => do
        return .reply (← scope.issue "unable to run command" (.runCommand command))
      | v => throw (.dispatch (.unknownCommand v))
    | .watch => do return .watcher (← Watcher.start g.table)
    | name => throw (.dispatch (.invalidCommand name))

def perform (scope : Scope) (g : GroupedQuery) (selector : Document) (params : Params)
    (kind : CommandKind) : ClientM ExecResult :=
  match kind with
  | .insert => insert scope g params
  | .update => update scope g selector params
  | .delete => delete scope g selector
  | .save => save scope g params
  | .command =>
    match g.command with
    | some c => command scope g c selector params
    | none => throw (.dispatch .nothingToExecute)

-- Carries out a query. What it asks for is traced with how it went, unless
-- the query makes no sense or asks for nothing.
def run (scope : Scope) (clauses : List Clause) (params : Params) : ClientM ExecResult := fun client =>
  match prepare scope clauses with
  | .error e => (.error e, client)
  | .ok (g, selector) =>
    match g.kind with
    | none => (.error (.dispatch .nothingToExecute), client)
    | some kind =>
      match perform scope g selector params kind client with
      | (.ok result, client) => (.ok result, client.emit (.execute kind g.table scope.isBound true))
      | (.error e, client) => (.error e, client.emit (.execute kind g.table scope.isBound false))

end Execute

end DocStore
