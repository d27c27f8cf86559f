import DocStore.Json
import DocStore.Json.Fields
import DocStore.Time.Timestamp
import DocStore.Value

namespace DocStore

namespace Value

-- A regular expression, unless its texts hold the character that ends texts.
def regex? (pattern options : String) : Option Value :=
  if (pattern ++ options).toList.contains (Char.ofNat 0) then none else some (ofRegex pattern options)

def doubleOfText? (text : String) : Option Double :=
  match text with
  | "Infinity" => some (Double.infinity false)
  | "-Infinity" => some (Double.infinity true)
  | "NaN" => some (Double.nan false)
  | _ => Double.parse? text

def binaryOfText? (base64 subtype : String) : Option Value := do
  let bytes ← Text.bytesOfBase64? base64
  match ← Text.bytesOfHex? subtype with
  | [kind] => return .binary kind bytes
  | _ => none

def unsigned32? (n : Int) : Option UInt32 :=
  if 0 ≤ n ∧ n ≤ Integer.maxUnsigned32 then some (UInt32.ofNat n.toNat) else none

def timestamp? (time increment : Int) : Option Value := do
  return .timestamp (← unsigned32? time) (← unsigned32? increment)

def dateOfText? (text : String) : Option Value :=
  match Timestamp.strictMillis? text with
  | some millis => if Integer.fits64 millis then some (.date (Int64.ofInt millis)) else none
  | none => none

-- Reserved keys with one text behind them.
def textTags : List String :=
  ["$oid", "$symbol", "$numberInt", "$numberLong", "$numberDouble", "$numberDecimal"]

def ofTaggedText? (tag text : String) : Option Value :=
  match tag with
  | "$oid" => (ObjectId.parse? text).map .objectId
  | "$symbol" => some (.symbol text)
  | "$numberInt" => (Integer.parse32? text).map .int32
  | "$numberLong" => (Integer.parse64? text).map .int64
  | "$numberDouble" => (doubleOfText? text).map .double
  | "$numberDecimal" => (Decimal128.parse? text).map .decimal
  | _ => none

-- Reserved keys with a number, a truth value or a record behind them.
def bodyTags : List String :=
  ["$binary", "$timestamp", "$regularExpression", "$dbPointer", "$date", "$minKey", "$maxKey", "$undefined"]

def isTag (key : String) : Bool := textTags.contains key || bodyTags.contains key

-- The body of a date: a timestamp, or milliseconds as a record of one text.
def ofDateText? : JsonText → Option Value
  | .string s => s.bind dateOfText?
  | body => do
    let fields ← body.exactRecord? ["$numberLong"]
    let millis ← (fields.get? "$numberLong").bind (·.text?)
    return .date (← Integer.parse64? millis)

-- The body of a pointer: a collection, and an id as a record of one text.
def dbPointerOfText? (body : JsonText) : Option Value := do
  let fields ← body.exactRecord? ["$ref", "$id"]
  let collection ← (fields.get? "$ref").bind (·.text?)
  let id ← (fields.get? "$id").bind (·.exactRecord? ["$oid"])
  let id ← ((id.get? "$oid").bind (·.text?)).bind ObjectId.parse?
  return .dbPointer collection id

def ofTaggedBody? (tag : String) (body : JsonText) : Option Value :=
  match tag with
  | "$binary" => do
    let fields ← body.exactRecord? ["base64", "subType"]
    let base64 ← (fields.get? "base64").bind (·.text?)
    let subtype ← (fields.get? "subType").bind (·.text?)
    binaryOfText? base64 subtype
  | "$timestamp" => do
    let fields ← body.exactRecord? ["t", "i"]
    let time ← (fields.get? "t").bind (·.integer?)
    let increment ← (fields.get? "i").bind (·.integer?)
    timestamp? time increment
  | "$regularExpression" => do
    let fields ← body.exactRecord? ["pattern", "options"]
    let pattern ← (fields.get? "pattern").bind (·.text?)
    let options ← (fields.get? "options").bind (·.text?)
    regex? pattern options
  | "$dbPointer" => dbPointerOfText? body
  | "$date" => ofDateText? body
  | "$minKey" => if body.integer? = some 1 then some .minKey else none
  | "$maxKey" => if body.integer? = some 1 then some .maxKey else none
  | "$undefined" =>
    match body with
    | .boolean true => some .undefined
    | _ => none
  | _ => none

-- The levels of nesting that a record behind a reserved key takes.
def levelsBehind (tag : String) : Nat := if tag = "$dbPointer" then 2 else 1

-- What a reserved key and the value behind it stand for.
def ofTagged? (budget : Nat) (tag : String) (body : JsonText) : Option Value :=
  if textTags.contains tag then body.text?.bind (ofTaggedText? tag)
  else if body.isCompound && decide (budget < levelsBehind tag) then none
  else ofTaggedBody? tag body

-- Whole numbers are as narrow as they can be, but negative ones always wide.
def ofJsonNumber? (n : JsonNumber) : Option Value :=
  match n.value? with
  | some (.whole n) =>
    if 0 ≤ n ∧ n ≤ Integer.max32 then some (.int32 (Int32.ofInt n))
    else if Integer.fits64 n then some (.int64 (Int64.ofInt n))
    else none
  | some (.fractional x) => some (.double x)
  | none => none

mutual

-- Reads JSON text with at most `budget` levels of nesting.
def ofJsonText? (budget : Nat) : JsonText → Option Value
  | .null => some .null
  | .boolean b => some (.boolean b)
  | .number n => ofJsonNumber? n
  | .string s => s.map .string
  | .array items =>
    match budget with
    | 0 => none
    | inner + 1 => (ofJsonItems? inner items).map .array
  | .object fields =>
    match budget with
    | 0 => none
    | inner + 1 => ofJsonFields? inner [] fields

def ofJsonItems? (budget : Nat) : List JsonText → Option (List Value)
  | [] => some []
  | item :: rest =>
    match ofJsonText? budget item with
    | none => none
    | some v => (ofJsonItems? budget rest).map (v :: ·)

-- A reserved key makes the object a value: the fields in front of it count
-- as nothing, and none may follow. Code may have a scope beside it.
def ofJsonFields? (budget : Nat) (d : Document) : List (Option String × JsonText) → Option Value
  | [] => some (.document d)
  | (none, _) :: _ => none
  | (some key, item) :: rest =>
    if isTag key then
      if rest.isEmpty then ofTagged? budget key item else none
    else if key = "$code" then
      match item.text?, rest with
      | some source, [] => some (.code source)
      | some source, [(some "$scope", scope)] =>
        match ofJsonText? budget scope with
        | some (.document scope) => some (.codeWithScope source scope)
        | _ => none
      | _, _ => none
    else if key = "$scope" then
      match ofJsonText? budget item, rest with
      | some (.document scope), [(some "$code", source)] =>
        source.text?.map fun source => .codeWithScope source scope
      | _, _ => none
    else
      match ofJsonText? budget item with
      | none => none
      | some v => ofJsonFields? budget (d.insert key v) rest

end

-- The bytes of a binary value written as a record.
def binaryOfFields? (fields : Document) : Option Value := do
  let base64 ← fields.string? "base64"
  let subtype ← fields.string? "subType"
  binaryOfText? base64 subtype

def timestampOfFields? (fields : Document) : Option Value :=
  match fields.get? "t", fields.get? "i" with
  | some (.int32 t), some (.int32 i) => some (.timestamp t.toUInt32 i.toUInt32)
  | some (.int64 t), some (.int64 i) => timestamp? t.toInt i.toInt
  | _, _ => none

-- The pointer written as a record, whose id is read already.
def dbPointerOfFields? (fields : Document) : Option Value :=
  match fields.get? "$ref", fields.get? "$id" with
  | some (.string collection), some (.objectId id) => some (.dbPointer collection id)
  | _, _ => none

-- What a reserved key and a value that is read already stand for; none leaves the document
-- that it looks like.
def ofTaggedValue? (tag : String) (body : Value) : Option Value :=
  match tag, body with
  | "$binary", .document fields => binaryOfFields? fields
  | "$code", .string source => some (.code source)
  | "$timestamp", .document fields => timestampOfFields? fields
  | "$regularExpression", .document fields => do
    regex? (← Document.string? fields "pattern") (← Document.string? fields "options")
  | "$dbPointer", .document fields => dbPointerOfFields? fields
  | "$date", .int64 millis => some (.date millis)
  | "$date", .string text => dateOfText? text
  | "$minKey", .int32 1 => some .minKey
  | "$minKey", .int64 1 => some .minKey
  | "$maxKey", .int32 1 => some .maxKey
  | "$maxKey", .int64 1 => some .maxKey
  | "$undefined", .boolean true => some .undefined
  | tag, .string text => ofTaggedText? tag text
  | _, _ => none

-- The value that a document with one reserved key stands for, or the document.
def ofReserved (d : Document) : Value :=
  match d with
  | [(tag, body)] => (ofTaggedValue? tag body).getD (.document d)
  | [("$code", .string source), ("$scope", .document scope)] => .codeWithScope source scope
  | _ => .document d

mutual

-- The value of JSON, all whole numbers wide; none when one does not fit.
def ofJson? : Json → Option Value
  | .null => some .null
  | .boolean b => some (.boolean b)
  | .integer n => if Integer.fits64 n then some (.int64 (Int64.ofInt n)) else none
  | .number x => some (.double x)
  | .string s => some (.string s)
  | .array items => (itemsOfJson? items).map .array
  | .object fields => (fieldsOfJson? fields).map ofReserved

def itemsOfJson? : List Json → Option (List Value)
  | [] => some []
  | item :: rest =>
    match ofJson? item with
    | none => none
    | some v => (itemsOfJson? rest).map (v :: ·)

def fieldsOfJson? : List (String × Json) → Option Document
  | [] => some []
  | (key, item) :: rest =>
    match ofJson? item with
    | none => none
    | some v => (fieldsOfJson? rest).map ((key, v) :: ·)

end

end Value

-- A JSON object as a document.
def Document.ofJson? (json : Json) : Option Document := (Value.ofJson? json).bind (·.document?)

end DocStore
