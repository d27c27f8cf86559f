import DocStore.Pipeline
import DocStore.Store

namespace DocStore

namespace Store

def targetOf (command : String) : Value → Except StoreError String
  | .string name => .ok name
  | _ => .error (.collectionExpected command)

def orEmpty (d : Option Document) : Document := d.getD []

def findIn (s : Store) (session : Option SessionId) (name : String) (selector : Document)
    (options : FindOptions) : Except StoreError (List Document) := do
  Collection.find selector options ((← s.view session).documents name)

def aggregateIn (s : Store) (session : Option SessionId) (name : String) (stages : List Document) :
    Except StoreError (List Document) := do
  Pipeline.run stages ((← s.view session).documents name)

def countIn (s : Store) (session : Option SessionId) (name : String) (selector : Document) :
    Except StoreError Nat := do
  Collection.count selector ((← s.view session).documents name)

def distinctIn (s : Store) (session : Option SessionId) (name path : String) (selector : Document) :
    Except StoreError (List Value) := do
  Collection.distinct path selector ((← s.view session).documents name)

-- The options that a find command carries; a negative skip is none.
def findOptionsOf (command : Document) : FindOptions :=
  { projection := command.document? "projection"
    sort := command.document? "sort"
    skip := ((command.get? "skip").bind (·.toWhole?)).bind fun n => if 0 ≤ n then some n.toNat else none
    limit := (command.get? "limit").bind (·.toWhole?) }

def stagesOf : List Value → Except StoreError (List Document)
  | [] => .ok []
  | .document d :: rest => (stagesOf rest).map (d :: ·)
  | _ :: _ => .error .stageNotDocument

def pipelineOf (command : Document) : Except StoreError (List Document) :=
  match command.array? "pipeline" with
  | some stages => stagesOf stages
  | none => .error .pipelineMissing

def listing (name : String) : Document := [("name", .string name), ("type", .string "collection")]

-- Commands that answer with documents: where these come from, and the documents.
def runCursorCommand (s : Store) (session : Option SessionId) (command : Document) :
    Except StoreError (String × List Document) :=
  match command with
  | [] => .error .emptyCommand
  | (key, arg) :: _ =>
    match key with
    | "find" => do
      let name ← targetOf key arg
      let docs ← s.findIn session name (orEmpty (command.document? "filter")) (findOptionsOf command)
      return (name, docs)
    | "aggregate" => do
      let name ← targetOf key arg
      let docs ← s.aggregateIn session name (← pipelineOf command)
      return (name, docs)
    | "listCollections" => do
      let names := sortedNames (← s.view session).keys
      return ("$cmd.listCollections", names.map listing)
    | _ => .error (.unknownCommand key)

def reply (fields : Document) : Document := fields ++ [("ok", .int32 1)]

def cursorReply (name : String) (docs : List Document) : Document :=
  reply [("cursor", .document
    [("firstBatch", .array (docs.map .document)), ("id", .int64 0), ("ns", .string name)])]

-- Commands that answer with one document. Only dropping a collection changes
-- the store, and it does so whatever the session.
def runCommand (s : Store) (session : Option SessionId) (command : Document) :
    Except StoreError Document × Store :=
  match command with
  | [] => (.error .emptyCommand, s)
  | (key, arg) :: _ =>
    match key with
    | "ping" => (.ok (reply []), s)
    | "count" =>
      (do
        let name ← targetOf key arg
        let n ← s.countIn session name (orEmpty (command.document? "query"))
        return reply [("n", .int64 (Int64.ofInt n))], s)
    | "distinct" =>
      (do
        let name ← targetOf key arg
        let path ← match command.string? "key" with
          | some path => .ok path
          | none => .error .keyMissing
        let values ← s.distinctIn session name path (orEmpty (command.document? "query"))
        return reply [("values", .array values)], s)
    | "drop" =>
      match targetOf key arg with
      | .ok name => (.ok (reply []), s.dropCollection name)
      | .error e => (.error e, s)
    | _ =>
      ((s.runCursorCommand session command).map fun (name, docs) => cursorReply name docs, s)

end Store

end DocStore
