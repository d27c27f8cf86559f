import DocStore.Filter
import DocStore.Value.Json

namespace DocStore

structure FilterSpec where
  op : String
  field : String
  value : Value
  items : List FilterSpec

namespace FilterSpec

def fieldNames : List String := ["op", "field", "value", "items"]

mutual

-- Reads a record with at most `budget` levels of nesting. Only the operator
-- has to be there.
def ofJsonText? : Nat → JsonText → Option FilterSpec
  | 0, _ => none
  | budget + 1, text => do
    let fields ← text.record? true fieldNames
    let op ← (fields.get? "op").bind (·.text?)
    let field ← match fields.get? "field" with
      | none => some ""
      | some item => item.text?
    let value ← match fields.get? "value" with
      | none => some Value.null
      | some item => Value.ofJsonText? budget item
    let items ← match fields.get? "items" with
      | none => some []
      | some (.array items) =>
        match budget with
        | 0 => none
        | inner + 1 => listOfJsonText? inner items
      | some _ => none
    return ⟨op, field, value, items⟩

def listOfJsonText? (budget : Nat) : List JsonText → Option (List FilterSpec)
  | [] => some []
  | item :: rest => do return (← ofJsonText? budget item) :: (← listOfJsonText? budget rest)

end

-- Levels of arrays and objects that a text may have.
def maxDepth : Nat := 127

def ofJson? (text : String) : Option FilterSpec := (JsonText.parse? text).bind (ofJsonText? maxDepth)

mutual

-- Writes what is not empty.
def toJson? : FilterSpec → Option Json
  | ⟨op, field, value, items⟩ => do
    let value ← if value.isNull then some [] else
      (Json.ofValue? .canonical value).map fun v => [("value", v)]
    let items ← if items.isEmpty then some [] else
      (listToJson? items).map fun items => [("items", .array items)]
    let field := if field.isEmpty then [] else [("field", Json.string field)]
    return Json.ofFields ([("op", .string op)] ++ field ++ value ++ items)

def listToJson? : List FilterSpec → Option (List Json)
  | [] => some []
  | item :: rest => do return (← toJson? item) :: (← listToJson? rest)

end

end FilterSpec

namespace Filter

def listOf (op : FilterOp) : Value → Except DbError (List Value)
  | .array items => .ok items
  | v => .error (.malformed (.listExpected op v))

def boundsOf (value : Value) : Except DbError (Value × Value) := do
  match ← listOf .range value with
  | [low, high] => return (low, high)
  | bounds => .error (.malformed (.boundsExpected bounds.length))

-- One value that is no list stands for the list of itself.
def needlesOf : Value → List Value
  | .array needles => needles
  | needle => [needle]

mutual

def ofSpec : FilterSpec → Except DbError Filter
  | ⟨op, path, value, items⟩ =>
    match FilterOp.ofName? op with
    | none => .error (.unknownOperator op)
    | some .eq => .ok (.field path (.equal value))
    | some .ne => .ok (.field path (.notEqual value))
    | some .gt => .ok (.field path (.greater value))
    | some .gte => .ok (.field path (.atLeast value))
    | some .lt => .ok (.field path (.less value))
    | some .lte => .ok (.field path (.atMost value))
    | some .range => (boundsOf value).map fun (low, high) => .field path (.within low high)
    | some .oneOf => (listOf .oneOf value).map fun vs => .field path (.oneOf vs)
    | some .noneOf => (listOf .noneOf value).map fun vs => .field path (.noneOf vs)
    | some .contains => .ok (.field path (.contains (needlesOf value)))
    | some .startsWith => .ok (.field path (.startsWith value))
    | some .endsWith => .ok (.field path (.endsWith value))
    | some .all => .ok (.field path (.all value))
    | some .elemMatch => .ok (.elemMatch path (ofSpecs items))
    | some .and => .ok (.and (ofSpecs items))
    | some .or => .ok (.or (ofSpecs items))
    | some .not => .ok (.not (ofSpecs items))
    | some .text =>
      match value with
      | .string search => .ok (.text search)
      | _ => .error (.malformed .searchExpected)

-- Items that are no filters are kept as such.
def ofSpecs : List FilterSpec → List Filter
  | [] => []
  | spec :: rest =>
    (match ofSpec spec with
      | .ok f => f
      | .error e => .invalid e.toRejection) :: ofSpecs rest

end

-- Reads a filter from JSON text.
def ofJson (text : String) : Except DbError Filter :=
  match FilterSpec.ofJson? text with
  | some spec => ofSpec spec
  | none => .error (.malformed .notJson)

end Filter

end DocStore
