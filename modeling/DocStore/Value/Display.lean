import DocStore.Value
import DocStore.Text.Blank
import DocStore.Time.Timestamp

namespace DocStore

def hexByte (n : UInt8) : String := String.ofList (Nat.toDigits 16 n.toNat)

mutual

def Value.display : Value → String
  | .null => "null"
  | .boolean b => if b then "true" else "false"
  | .int32 n => toString n.toInt
  | .int64 n => toString n.toInt
  | .double x => x.text
  | .decimal d => d.text
  | .string s => "\"" ++ s ++ "\""
  | .symbol s => "Symbol(\"" ++ s ++ "\")"
  | .array items => "[" ++ Text.joined ", " (Value.displayItems items) ++ "]"
  | .document [] => "\x7b\x7d"
  | .document fields => "\x7b " ++ Text.joined ", " (Value.displayFields fields) ++ " \x7d"
  | .objectId id => "ObjectId(\"" ++ id.text ++ "\")"
  | .date millis => "DateTime(\"" ++ Timestamp.displayText millis.toInt ++ "\")"
  | .regex pattern options => "/" ++ pattern ++ "/" ++ options
  | .dbPointer collection id => "DbPointer(" ++ collection ++ ", " ++ id.text ++ ")"
  | .binary subtype bytes => "Binary(0x" ++ hexByte subtype ++ ", " ++ Text.base64 bytes ++ ")"
  | .timestamp time increment => "Timestamp(" ++ toString time ++ ", " ++ toString increment ++ ")"
  | .code source => source
  | .codeWithScope source _ => source
  | .minKey => "MinKey"
  | .maxKey => "MaxKey"
  | .undefined => "undefined"

def Value.displayItems : List Value → List String
  | [] => []
  | v :: rest => Value.display v :: Value.displayItems rest

def Value.displayFields : List (String × Value) → List String
  | [] => []
  | (key, v) :: rest => ("\"" ++ key ++ "\": " ++ Value.display v) :: Value.displayFields rest

end

end DocStore
