import DocStore.Document.Projection
import DocStore.Document.Sort
import DocStore.Document.Update
import DocStore.Selector

namespace DocStore

structure FindOptions where
  projection : Option Document := none
  sort : Option Document := none
  skip : Option Nat := none
  -- Zero is no limit, and the sign counts as nothing.
  limit : Option Int := none

structure UpdateReport where
  matched : Nat := 0
  modified : Nat := 0
  upserted : Bool := false
  deriving DecidableEq

-- What a write leaves of the documents, the events that go with it and its outcome.
-- Documents changed before a failure stay changed.
structure Write (α : Type) where
  documents : List Document
  events : List Document
  outcome : Except StoreError α

namespace Document

-- The document with its identifier in front: the given one, or else its own,
-- or else a fresh one.
def withId (d : Document) (id : Option Value) (fresh : ObjectId) : Document :=
  ("_id", (id.or (d.get? "_id")).getD (.objectId fresh)) :: d.filter (·.1 != "_id")

def id? (d : Document) : Option Value := d.get? "_id"

-- The news of a change to one document.
def changeEvent (kind collection : String) (d : Document) : Document :=
  [
    ("operationType", .string kind),
    ("ns", .document [("coll", .string collection)]),
    ("documentKey", .document [("_id", d.id?.getD .null)]),
    ("fullDocument", .document d)
  ]

-- Whether a key names a field of the document itself.
def isTopField (key : String) : Bool := !Text.startsWithChar '$' key && !key.toList.contains '.'

-- The fields that a query document demands to be equal to a value.
def upsertSeed (selector : Document) : Document :=
  selector.foldl (fun seed (key, arg) =>
    if !isTopField key then seed
    else
      match arg with
      | .document fields =>
        if Document.isOperator fields then
          match OrderedMap.get? fields "$eq" with
          | some v => OrderedMap.insert seed key v
          | none => seed
        else OrderedMap.insert seed key (.document fields)
      | v => OrderedMap.insert seed key v) []

end Document

namespace Collection

def sorted (sort : Option Document) (docs : List Document) : Except StoreError (List Document) :=
  match sort with
  | none => .ok docs
  | some sort => do
    sort.checkSort
    return sort.sortBy docs

def limited (limit : Option Int) (docs : List Document) : List Document :=
  match limit with
  | none => docs
  | some n => if n = 0 then docs else docs.take n.natAbs

def projected (projection : Option Document) (docs : List Document) : Except StoreError (List Document) :=
  match projection with
  | none => .ok docs
  | some projection => projection.projectAll docs

def find (selector : Document) (options : FindOptions) (docs : List Document) :
    Except StoreError (List Document) := do
  let found ← Selector.select selector docs
  let found ← sorted options.sort found
  projected options.projection (limited options.limit (found.drop (options.skip.getD 0)))

def count (selector : Document) (docs : List Document) : Except StoreError Nat :=
  (Selector.select selector docs).map (·.length)

-- The values at a path, the items of an array each for itself.
def valuesAt (path : String) (d : Document) : List Value :=
  match d.getPath? path with
  | some (.array items) => items
  | some v => [v]
  | none => []

def addNew (seen : List Value) (v : Value) : List Value :=
  if seen.any (·.same v) then seen else seen ++ [v]

def distinct (path : String) (selector : Document) (docs : List Document) :
    Except StoreError (List Value) := do
  let found ← Selector.select selector docs
  return (found.flatMap (valuesAt path)).foldl addNew []

def holdsId (id : Value) (d : Document) : Bool :=
  match d.id? with
  | some other => other.same id
  | none => false

def insertOne (name : String) (d : Document) (fresh : ObjectId) (docs : List Document) : Write Value :=
  let stored := d.withId none fresh
  let id := stored.id?.getD .null
  if docs.any (holdsId id) then ⟨docs, [], .error (.duplicate id)⟩
  else ⟨docs ++ [stored], [stored.changeEvent "insert" name], .ok id⟩

-- A document that stays in front of what is left to write.
def keep {α : Type} (d : Document) (w : Write α) : Write α := { w with documents := d :: w.documents }

def updateEach (name : String) (selector update : Document) (onlyFirst : Bool) :
    List Document → Write UpdateReport
  | [] => ⟨[], [], .ok {}⟩
  | d :: rest =>
    match Selector.holds d selector with
    | .error e => ⟨d :: rest, [], .error e⟩
    | .ok false => keep d (updateEach name selector update onlyFirst rest)
    | .ok true =>
      let result := update.applyUpdate d
      match result.outcome with
      | .error e => ⟨d :: rest, [], .error e⟩
      | .ok changed =>
        let next := if changed then result.document else d
        let events := if changed then [next.changeEvent "update" name] else []
        let after := if onlyFirst then ⟨rest, [], .ok {}⟩ else updateEach name selector update onlyFirst rest
        { documents := next :: after.documents
          events := events ++ after.events
          outcome := after.outcome.map fun report =>
            { report with
              matched := report.matched + 1
              modified := report.modified + changed.toNat } }

-- Updates what is selected; where nothing is, an upsert makes a document of
-- what the query document demands.
def update (name : String) (selector update : Document) (upsert onlyFirst : Bool) (fresh : ObjectId)
    (docs : List Document) : Write UpdateReport :=
  let written := updateEach name selector update onlyFirst docs
  match written.outcome with
  | .error _ => written
  | .ok report =>
    if report.matched = 0 ∧ upsert = true then
      let seeded := update.applyUpdate (Document.upsertSeed selector)
      match seeded.outcome with
      | .error e => { written with outcome := .error e }
      | .ok _ =>
        let created := seeded.document.withId none fresh
        { documents := written.documents ++ [created]
          events := written.events ++ [created.changeEvent "insert" name]
          outcome := .ok { report with upserted := true } }
    else written

-- Whether a replacement comes with an identifier other than the document's own.
def changesId (replacement d : Document) : Bool :=
  match replacement.id?, d.id? with
  | some new, some old => !new.same old
  | _, _ => false

def replaceFirst (name : String) (selector replacement : Document) (fresh : ObjectId) :
    List Document → Write UpdateReport
  | [] => ⟨[], [], .ok {}⟩
  | d :: rest =>
    match Selector.holds d selector with
    | .error e => ⟨d :: rest, [], .error e⟩
    | .ok false => keep d (replaceFirst name selector replacement fresh rest)
    | .ok true =>
      if changesId replacement d then ⟨d :: rest, [], .error .identifierImmutable⟩
      else
        let next := replacement.withId d.id? fresh
        { documents := next :: rest
          events := [next.changeEvent "replace" name]
          outcome := .ok { matched := 1, modified := (!d.same next).toNat } }

def replaceOne (name : String) (selector replacement : Document) (upsert : Bool) (fresh : ObjectId)
    (docs : List Document) : Write UpdateReport :=
  let written := replaceFirst name selector replacement fresh docs
  match written.outcome with
  | .error _ => written
  | .ok report =>
    if report.matched = 0 ∧ upsert = true then
      let id := replacement.id?.or (Document.upsertSeed selector).id?
      let created := replacement.withId id fresh
      { documents := docs ++ [created]
        events := [created.changeEvent "insert" name]
        outcome := .ok { upserted := true } }
    else written

-- Which documents are selected; all have to be decidable.
def marks (selector : Document) : List Document → Except StoreError (List Bool)
  | [] => .ok []
  | d :: rest =>
    match Selector.holds d selector with
    | .ok hit => (marks selector rest).map (hit :: ·)
    | .error e => .error e

def deleteMany (name : String) (selector : Document) (docs : List Document) : Write Nat :=
  match marks selector docs with
  | .error e => ⟨docs, [], .error e⟩
  | .ok hits =>
    let marked := docs.zip hits
    let deleted := (marked.filter (·.2)).map (·.1)
    { documents := (marked.filter (!·.2)).map (·.1)
      events := deleted.map (·.changeEvent "delete" name)
      outcome := .ok deleted.length }

end Collection

end DocStore
