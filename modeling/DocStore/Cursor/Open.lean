import DocStore.Cursor
import DocStore.Query.Stage

namespace DocStore

-- The query document of the filters, empty where there are none.
def GroupedQuery.selector (g : GroupedQuery) (policy : CompositePolicy) : Except DbError Document :=
  match g.filter with
  | some f => f.compile policy
  | none => .ok []

-- A query as it is carried out: its clauses in order and its filters compiled.
def prepare (scope : Scope) (clauses : List Clause) : Except DbError (GroupedQuery × Document) := do
  let g ← GroupedQuery.ofClauses clauses
  return (g, ← g.selector scope.config.compositePolicy)

namespace Cursor

def specOf (g : GroupedQuery) (selector : Document) : CountSpec := ⟨g.table, selector⟩

def openAggregate (scope : Scope) (g : GroupedQuery) (items : List AggregateItem) (selector : Document) :
    ClientM Cursor := do
  let stage ← GroupedQuery.groupStage items g.groupBy
  let stages := GroupedQuery.matchStage selector ++ [[("$group", .document stage)]]
  let stream ← scope.issue "unable to aggregate" (.aggregate g.table stages true)
  return opened scope stream (some (specOf g selector))

-- The filters go in front of a pipeline, unless that starts with a text search.
def openPipeline (scope : Scope) (g : GroupedQuery) (payload : Value) (selector : Document) :
    ClientM Cursor := do
  let stages ← GroupedQuery.pipelineOf payload
  let isText := stages.head?.any GroupedQuery.isTextStage
  let stages := if isText then stages else GroupedQuery.matchStage selector ++ stages
  let stream ← scope.issue "unable to aggregate" (.aggregate g.table stages true)
  return opened scope stream none

def openCommand (scope : Scope) (g : GroupedQuery) (c : Command) (selector : Document) :
    ClientM Cursor :=
  match c.name with
  | .aggregate => openPipeline scope g c.payload selector
  | .pipe => openPipeline scope g c.payload selector
  | .command =>
    match c.payload with
    | .document command => do
      let stream ← scope.issue "unable to run command" (.runCommandCursor command)
      return opened scope stream none
    | v => throw (.dispatch (.commandDocument v))
  | name => throw (.dispatch (.invalidCursorCommand name))

def openFind (scope : Scope) (g : GroupedQuery) (selector : Document) : ClientM Cursor := do
  let projection ← g.projection
  let options : FindOptions := { projection, sort := g.sort, skip := g.skip, limit := g.take }
  let stream ← scope.issue "unable to find" (.find g.table selector options)
  return opened scope stream (some (specOf g selector))

def openAs (scope : Scope) (g : GroupedQuery) (selector : Document) : CursorMode × ClientM Cursor :=
  match g.aggregate, g.command with
  | some items, _ => (.aggregate, openAggregate scope g items selector)
  | none, some c => (.command, openCommand scope g c selector)
  | none, none => (.find, openFind scope g selector)

-- Opens the cursor of a query. Queries that make no sense leave no trace.
def ofQuery (scope : Scope) (clauses : List Clause) (client : Client) : Cursor × Client :=
  match prepare scope clauses with
  | .error e => (failed scope e, client)
  | .ok (g, selector) =>
    let (mode, action) := openAs scope g selector
    match action client with
    | (.ok c, client) => (c, client.emit (.cursor mode g.table true))
    | (.error e, client) => (failed scope e, client.emit (.cursor mode g.table false))

end Cursor

end DocStore
