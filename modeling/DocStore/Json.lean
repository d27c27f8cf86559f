import DocStore.Json.Number
import DocStore.OrderedMap

namespace DocStore

inductive Json where
  | null
  | boolean (b : Bool)
  | integer (n : Int)
  | number (x : Double)
  | string (s : String)
  | array (items : List Json)
  | object (fields : List (String × Json))

namespace Json

-- Puts a field at its place in the order of keys.
def addField (key : String) (v : Json) : List (String × Json) → List (String × Json)
  | [] => [(key, v)]
  | (k, w) :: rest =>
    if key < k then (key, v) :: (k, w) :: rest
    else if k = key then (k, v) :: rest
    else (k, w) :: addField key v rest

def ofFields (fields : List (String × Json)) : Json :=
  .object (fields.foldl (fun sorted field => addField field.1 field.2 sorted) [])

-- A floating-point number; infinities and what is not a number have no place in JSON.
def ofDouble (x : Double) : Json := if x.isFinite then .number x else .null

def ofNumber (n : JsonNumber) : Option Json :=
  match n.value? with
  | some (.whole n) => some (.integer n)
  | some (.fractional x) => some (ofDouble x)
  | none => none

mutual

def ofText? : JsonText → Option Json
  | .null => some .null
  | .boolean b => some (.boolean b)
  | .number n => ofNumber n
  | .string s => s.map .string
  | .array items => (itemsOfText? items).map .array
  | .object fields => (fieldsOfText? fields).map ofFields

def itemsOfText? : List JsonText → Option (List Json)
  | [] => some []
  | item :: rest => do return (← ofText? item) :: (← itemsOfText? rest)

def fieldsOfText? : List (Option String × JsonText) → Option (List (String × Json))
  | [] => some []
  | (key, item) :: rest => do return (← key, ← ofText? item) :: (← fieldsOfText? rest)

end

end Json

end DocStore
