import DocStore.Error
import DocStore.Time.Timestamp
import DocStore.Value.Json

namespace DocStore

abbrev Decoder (α : Type) := Document → Except DbError α

namespace Record

def hasByteAt (i : Nat) (c : Char) (bytes : List UInt8) : Bool := bytes[i]? == some c.toUInt8

-- Whether a text has the punctuation of a date with a time behind it.
def looksLikeTimestamp (s : String) : Bool :=
  let bytes := s.toUTF8.data.toList
  decide (11 ≤ bytes.length) && hasByteAt 4 '-' bytes && hasByteAt 7 '-' bytes && hasByteAt 10 'T' bytes

def coerceDate (v : Value) : Value :=
  match v with
  | .string s =>
    if looksLikeTimestamp s then
      match Timestamp.lenientMillis? s with
      | some millis => .date (Int64.ofInt millis)
      | none => v
    else v
  | v => v

-- Turns the texts at the top of a document that are timestamps into dates.
def coerceDates (d : Document) : Document := d.map fun field => (field.1, coerceDate field.2)

def field (d : Document) (name : String) : Except DbError Value :=
  match d.get? name with
  | some v => .ok v
  | none => .error (.decode (.missing name))

def required {α : Type} (name : String) (v : Option α) : Except DbError α :=
  match v with
  | some a => .ok a
  | none => .error (.decode (.mismatch name))

-- A text, or bytes without a subtype that are one.
def text? : Value → Option String
  | .string s => some s
  | .binary subtype bytes => if subtype = 0 then Text.utf8? bytes else none
  | _ => none

def int32? : Value → Option Int32
  | .int32 n => some n
  | .int64 n => if Integer.fits32 n.toInt then some (Int32.ofInt n.toInt) else none
  | _ => none

def millisOfBody? : Value → Option Int64
  | .string s =>
    match Value.dateOfText? s with
    | some (.date millis) => some millis
    | _ => none
  | .document [("$numberLong", .string s)] => Integer.parse64? s
  | .array [.string s] => Integer.parse64? s
  | _ => none

-- The date in a document that is written like one; fields behind it count as nothing.
def millisOfFields? : List (String × Value) → Option Int64
  | [] => none
  | (key, v) :: rest =>
    if key = "$date" then millisOfBody? v
    else if Value.isTag key || key == "$code" || key == "$scope" then none
    else millisOfFields? rest

def date? : Value → Option Int64
  | .date millis => some millis
  | .document fields => millisOfFields? fields
  | _ => none

end Record

structure Employee where
  id : String
  name : String
  dept : String
  salary : Int32
  deriving DecidableEq

namespace Employee

def ofDocument : Decoder Employee := fun d => do
  let id ← Record.required "_id" (Record.text? (← Record.field d "_id"))
  let name ← Record.required "name" (Record.text? (← Record.field d "name"))
  let dept ← Record.required "dept" (Record.text? (← Record.field d "dept"))
  let salary ← Record.required "salary" (Record.int32? (← Record.field d "salary"))
  return ⟨id, name, dept, salary⟩

def toDocument (e : Employee) : Document :=
  [("_id", .string e.id), ("name", .string e.name), ("dept", .string e.dept), ("salary", .int32 e.salary)]

end Employee

structure Event where
  id : String
  seq : Int32
  -- When it took place, in milliseconds since 1970.
  millis : Int64
  deriving DecidableEq

def Event.ofDocument : Decoder Event := fun d => do
  let id ← Record.required "_id" (Record.text? (← Record.field d "_id"))
  let seq ← Record.required "seq" (Record.int32? (← Record.field d "seq"))
  let millis ← Record.required "at" (Record.date? (← Record.field d "at"))
  return ⟨id, seq, millis⟩

def Json.ofDocument : Decoder Json := fun d =>
  match Json.ofValue? .relaxed (.document d) with
  | some json => .ok json
  | none => .error (.decode .notJson)

-- The document itself.
def Document.asRecord : Decoder Document := .ok

end DocStore
