import DocStore.Value.Extended

namespace DocStore

-- The decisions on which two forms of JSON differ.
structure JsonForm where
  date : Int64 → Json
  -- Binary values without a particular subtype.
  bytes : List UInt8 → Option Json
  decimal : Decimal128 → Option Json

namespace Json

def tagged (tag : String) (body : Json) : Json := .object [(tag, body)]

def ofMillis (millis : Int64) : Json :=
  tagged "$date" (tagged "$numberLong" (.string (toString millis.toInt)))

def ofBytes (bytes : List UInt8) : Json := .array (bytes.map fun b => .integer b.toNat)

end Json

namespace JsonForm

-- Dates from 1970 to the year 9999 are internet timestamps. Bare bytes and
-- decimals have no place.
def relaxed : JsonForm :=
  { date := fun millis =>
      if Timestamp.hasInternetText millis.toInt
      then Json.tagged "$date" (.string (Timestamp.internetText millis.toInt))
      else Json.ofMillis millis
    bytes := fun _ => none
    decimal := fun _ => none }

-- Dates are milliseconds; bytes are lists of numbers, those of decimals too.
def canonical : JsonForm :=
  { date := Json.ofMillis
    bytes := fun bytes => some (Json.ofBytes bytes)
    decimal := fun d => some (Json.tagged "$numberDecimalBytes" (Json.ofBytes d.bytes)) }

end JsonForm

namespace Json

mutual

def ofValue? (form : JsonForm) : Value → Option Json
  | .null => some .null
  | .boolean b => some (.boolean b)
  | .int32 n => some (.integer n.toInt)
  | .int64 n => some (.integer n.toInt)
  | .double x => some (ofDouble x)
  | .decimal d => form.decimal d
  | .string s => some (.string s)
  | .symbol s => some (tagged "$symbol" (.string s))
  | .array items => (ofValues? form items).map .array
  | .document fields => (ofDocumentFields? form fields).map ofFields
  | .objectId id => some (tagged "$oid" (.string id.text))
  | .date millis => some (form.date millis)
  | .regex pattern options =>
    some (tagged "$regularExpression" (ofFields [("pattern", .string pattern), ("options", .string options)]))
  | .dbPointer collection id =>
    some (tagged "$dbPointer" (ofFields [("$ref", .string collection), ("$id", tagged "$oid" (.string id.text))]))
  | .binary subtype bytes =>
    if subtype = 0 then form.bytes bytes
    else
      some (tagged "$binary" (ofFields [("base64", .string (Text.base64 bytes)),
        ("subType", .string (Text.hexOfBytes [subtype]))]))
  | .timestamp time increment =>
    some (tagged "$timestamp" (ofFields [("t", .integer time.toNat), ("i", .integer increment.toNat)]))
  | .code source => some (tagged "$code" (.string source))
  | .codeWithScope source scope =>
    (ofDocumentFields? form scope).map fun scope =>
      ofFields [("$code", .string source), ("$scope", ofFields scope)]
  | .minKey => some (tagged "$minKey" (.integer 1))
  | .maxKey => some (tagged "$maxKey" (.integer 1))
  | .undefined => some (tagged "$undefined" (.boolean true))

def ofValues? (form : JsonForm) : List Value → Option (List Json)
  | [] => some []
  | v :: rest =>
    match ofValue? form v with
    | none => none
    | some item => (ofValues? form rest).map (item :: ·)

def ofDocumentFields? (form : JsonForm) : List (String × Value) → Option (List (String × Json))
  | [] => some []
  | (key, v) :: rest =>
    match ofValue? form v with
    | none => none
    | some item => (ofDocumentFields? form rest).map ((key, item) :: ·)

end

end Json

end DocStore
