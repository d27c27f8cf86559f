import DocStore.Client
import DocStore.Record

namespace DocStore

-- What a count behind a cursor is taken of.
structure CountSpec where
  collection : String
  filter : Document

-- A failure to open or to read is kept and reported from then on. The stream is closed
-- once, when the cursor is closed or dropped.
structure Cursor where
  stream : Option ResultStream
  countSpec : Option CountSpec := none
  error : Option DbError := none
  scope : Scope

namespace Cursor

def opened (scope : Scope) (stream : ResultStream) (countSpec : Option CountSpec) : Cursor :=
  { stream := some stream, countSpec, scope }

def failed (scope : Scope) (e : DbError) : Cursor := { stream := none, error := some e, scope }

-- The stream, unless a failure is on record or the cursor is closed.
def ready (c : Cursor) : Except DbError ResultStream :=
  match c.error, c.stream with
  | some (.fetch reason), _ => .error (.fetch reason)
  | some e, _ => .error (.fetch e.message)
  | none, some stream => .ok stream
  | none, none => .error (.fetch "cursor is closed")

def decodeNext {α : Type} (decode : Decoder α) (next : Except StoreError (Option Document)) :
    Except DbError (Option α) :=
  match next with
  | .error e => .error (.store "unable to fetch data" e)
  | .ok none => .ok none
  | .ok (some d) => (decode (Record.coerceDates d)).map some

-- The next document as a record. A failure is recorded for later fetches.
def fetchOne {α : Type} (decode : Decoder α) (c : Cursor) : Except DbError (Option α) × Cursor :=
  match c.ready with
  | .error e => (.error e, c)
  | .ok stream =>
    let c := { c with stream := some stream.next.2 }
    match decodeNext decode stream.next.1 with
    | .ok record => (.ok record, c)
    | .error e => (.error e, { c with error := some (.fetch e.message) })

-- Reads up to so many records, or until the stream ends. A failure loses what
-- was read before it.
def readUpTo {α : Type} (decode : Decoder α) :
    Nat → List α → Cursor → Except DbError (List α) × Cursor
  | 0, records, c => (.ok records, c)
  | wanted + 1, records, c =>
    match c.fetchOne decode with
    | (.ok (some record), c) => readUpTo decode wanted (records ++ [record]) c
    | (.ok none, c) => (.ok records, c)
    | (.error e, c) => (.error e, c)

def remaining (c : Cursor) : Nat :=
  match c.stream with
  | some stream => stream.rest.length
  | none => 0

-- How many records a limit asks for. Zero stands for all, up to the end of the stream.
def wanted (limit : Nat) (c : Cursor) : Nat := if limit = 0 then c.remaining + 1 else limit

-- Up to `limit` records, or all that are left if that is zero.
def fetchMany {α : Type} (decode : Decoder α) (limit : Nat) (c : Cursor) :
    Except DbError (List α) × Cursor :=
  readUpTo decode (c.wanted limit) [] c

def fetchAll {α : Type} (decode : Decoder α) (c : Cursor) : Except DbError (List α) × Cursor :=
  c.fetchMany decode 0

-- Why there are no records.
inductive FetchError where
  | failed (e : DbError)
  -- No block of memory has that many bytes.
  | capacityOverflow

-- Room for so many records of `width` bytes each, in one block of memory.
def roomFor (width room : Nat) : Except FetchError Nat :=
  if width * room ≤ Integer.max64 then .ok room else .error .capacityOverflow

-- Records read so far and how many there is room for.
structure Batch (α : Type) where
  records : List α
  room : Nat

-- Makes room for another `chunk` when there is none left.
def Batch.ensureRoom {α : Type} (b : Batch α) (width chunk : Nat) : Except FetchError (Batch α) :=
  if b.records.length = b.room
  then (roomFor width (b.room + chunk)).map fun room => { b with room }
  else .ok b

-- Reads what `readUpTo` does into a batch that grows by `chunk`.
def fillBatch {α : Type} (decode : Decoder α) (width chunk : Nat) :
    Nat → Batch α → Cursor → Except FetchError (List α) × Cursor
  | 0, b, c => (.ok b.records, c)
  | wanted + 1, b, c =>
    match b.ensureRoom width chunk with
    | .error e => (.error e, c)
    | .ok b =>
      match c.fetchOne decode with
      | (.ok (some record), c) =>
        fillBatch decode width chunk wanted { b with records := b.records ++ [record] } c
      | (.ok none, c) => (.ok b.records, c)
      | (.error e, c) => (.error (.failed e), c)

-- The size of a batch, which is never zero.
def chunkSize (c : Cursor) : Nat := max c.scope.config.fetchBatchSize 1

def firstRoom (limit : Nat) (c : Cursor) : Nat := if limit = 0 then c.chunkSize else min c.chunkSize limit

-- `fetchMany` as it is carried out, in batches of records of `width` bytes each.
def collectMany {α : Type} (width : Nat) (decode : Decoder α) (limit : Nat) (c : Cursor) :
    Except FetchError (List α) × Cursor :=
  match roomFor width (c.firstRoom limit) with
  | .error e => (.error e, c)
  | .ok room => fillBatch decode width c.chunkSize (c.wanted limit) ⟨[], room⟩ c

def collectAll {α : Type} (width : Nat) (decode : Decoder α) (c : Cursor) :
    Except FetchError (List α) × Cursor :=
  c.collectMany width decode 0

-- Counts what the query selects, whatever is skipped or taken of it.
def count (c : Cursor) : ClientM Nat :=
  match c.countSpec with
  | none => pure 0
  | some spec => c.scope.issue "unable to count" (.countDocuments spec.collection spec.filter)

-- Gives up the stream, which is closed if it was still there.
def release (c : Cursor) (s : Store) : Cursor × Store :=
  match c.stream with
  | none => (c, s)
  | some stream => ({ c with stream := none }, (stream.close s).2)

-- Closes the stream and reports the failure on record, which is forgotten then.
def close (c : Cursor) (s : Store) : Except DbError Unit × Cursor × Store :=
  let (c, s) := c.release s
  match c.error with
  | some e => (.error e, { c with error := none }, s)
  | none => (.ok (), c, s)

end Cursor

end DocStore
