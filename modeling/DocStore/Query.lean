import DocStore.Filter

namespace DocStore

inductive Clause where
  | table (name : String)
  -- Fields to show; `path:label` shows one under another name.
  | select (fields : List String)
  | filter (f : Filter)
  -- Sort keys; a minus sign in front sorts descending.
  | order (keys : List String)
  | skip (n : Nat)
  | take (n : Int)
  | aggregate (items : List AggregateItem)
  | groupBy (keys : List String)
  | command (c : Command)
  | insert
  -- The fields that may change; all of them if none is named.
  | update (fields : List String)
  | delete
  | save

structure GroupedQuery where
  table : String := ""
  select : List String := []
  filter : Option Filter := none
  order : List String := []
  skip : Option Nat := none
  take : Option Int := none
  aggregate : Option (List AggregateItem) := none
  groupBy : List String := []
  command : Option Command := none
  updateFields : List String := []
  kind : Option CommandKind := none

namespace GroupedQuery

def maxSelected : Nat := 256
def maxSortKeys : Nat := 32

-- Filters of one query all have to hold.
def addFilter (g : GroupedQuery) (f : Filter) : GroupedQuery :=
  match g.filter with
  | none => { g with filter := some f }
  | some (.and items) => { g with filter := some (.and (items ++ [f])) }
  | some first => { g with filter := some (.and [first, f]) }

-- A query asks for changes of one kind only.
def setKind (g : GroupedQuery) (kind : CommandKind) : Except DbError GroupedQuery :=
  match g.kind with
  | some first =>
    if first = kind then .ok g else .error (.dispatch (.mixedCommands first kind))
  | none => .ok { g with kind := some kind }

-- Lists grow, of everything else the last one counts.
def add (g : GroupedQuery) : Clause → Except DbError GroupedQuery
  | .table name => .ok { g with table := name }
  | .select fields => .ok { g with select := g.select ++ fields }
  | .filter f => .ok (g.addFilter f)
  | .order keys => .ok { g with order := g.order ++ keys }
  | .skip n => .ok { g with skip := some n }
  | .take n => .ok { g with take := some n }
  | .aggregate items => .ok { g with aggregate := some (g.aggregate.getD [] ++ items) }
  | .groupBy keys => .ok { g with groupBy := g.groupBy ++ keys }
  | .command c => { g with command := some c }.setKind .command
  | .insert => g.setKind .insert
  | .update fields => { g with updateFields := g.updateFields ++ fields }.setKind .update
  | .delete => g.setKind .delete
  | .save => g.setKind .save

def addAll (g : GroupedQuery) : List Clause → Except DbError GroupedQuery
  | [] => .ok g
  | clause :: rest =>
    match g.add clause with
    | .ok g => addAll g rest
    | .error e => .error e

def checkLimits (g : GroupedQuery) : Except DbError GroupedQuery :=
  if maxSelected < g.select.length then
    .error (.malformed (.tooManySelected g.select.length maxSelected))
  else if maxSortKeys < g.order.length then
    .error (.malformed (.tooManySortKeys g.order.length maxSortKeys))
  else .ok g

def ofClauses (clauses : List Clause) : Except DbError GroupedQuery := do
  (← addAll {} clauses).checkLimits

end GroupedQuery

end DocStore
