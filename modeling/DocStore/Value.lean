import DocStore.Number.Decimal128
import DocStore.OrderedMap
import DocStore.Text.Bytes

namespace DocStore

structure ObjectId where
  bits : BitVec 96
  deriving DecidableEq

namespace ObjectId

def bytes (id : ObjectId) : List UInt8 :=
  (List.range 12).map fun i => UInt8.ofNat (id.bits.toNat / Nat.pow 256 (11 - i))

def text (id : ObjectId) : String := Text.hexOfBytes id.bytes

def parse? (s : String) : Option ObjectId :=
  if s.toList.length = 24 then (Text.hexNumber? s.toList).map fun n => ⟨BitVec.ofNat 96 n⟩ else none

-- The identifiers handed out to documents that come without one.
def generated (serial : Nat) : ObjectId := ⟨BitVec.ofNat 96 (0x68d3a1f05c7e92b4d6 * 0x1000000 + serial)⟩

end ObjectId

inductive Value where
  | null
  | boolean (b : Bool)
  | int32 (n : Int32)
  | int64 (n : Int64)
  | double (x : Double)
  | decimal (d : Decimal128)
  | string (s : String)
  | symbol (s : String)
  | array (items : List Value)
  | document (fields : List (String × Value))
  | objectId (id : ObjectId)
  | date (millis : Int64)
  | regex (pattern options : String)
  -- A document of a collection by its id, as old databases refer to it.
  | dbPointer (collection : String) (id : ObjectId)
  | binary (subtype : UInt8) (bytes : List UInt8)
  | timestamp (time increment : UInt32)
  | code (source : String)
  | codeWithScope (source : String) (scope : List (String × Value))
  | minKey
  | maxKey
  | undefined

abbrev Document := OrderedMap Value

namespace Value

instance : Inhabited Value := ⟨null⟩

def isNumber : Value → Bool
  | int32 _ => true
  | int64 _ => true
  | double _ => true
  | decimal _ => true
  | _ => false

-- The nearest binary floating-point number of a number.
def toDouble? : Value → Option Double
  | int32 n => some (Double.ofInt n.toInt)
  | int64 n => some (Double.ofInt n.toInt)
  | double x => some x
  | decimal d => some d.toDouble
  | _ => none

def clamp64 (n : Int) : Int := max (-(Integer.max64 : Int) - 1) (min n Integer.max64)

-- A number without a fraction, cut to 64 bits. Decimals do not count.
def toWhole? : Value → Option Int
  | int32 n => some n.toInt
  | int64 n => some n.toInt
  | double x => x.toInt?.map clamp64
  | _ => none

-- The narrower of the two integer types that holds `n`.
def ofInt (n : Int) : Value :=
  if Integer.fits32 n then int32 (Int32.ofInt n) else int64 (Int64.ofInt n)

def isNull : Value → Bool
  | null => true
  | _ => false

-- Options stand in alphabetical order.
def ofRegex (pattern options : String) : Value :=
  regex pattern (String.ofList (options.toList.mergeSort (fun a b => decide (a ≤ b))))

def string? : Value → Option String
  | string s => some s
  | _ => none

def document? : Value → Option Document
  | document d => some d
  | _ => none

def array? : Value → Option (List Value)
  | array items => some items
  | _ => none

end Value

namespace Document

def string? (d : Document) (key : String) : Option String := (d.get? key).bind (·.string?)

def document? (d : Document) (key : String) : Option Document := (d.get? key).bind (·.document?)

def array? (d : Document) (key : String) : Option (List Value) := (d.get? key).bind (·.array?)

-- Whether the first key is an operator, which makes the whole an operator document.
def isOperator (d : Document) : Bool :=
  match d with
  | [] => false
  | (key, _) :: _ => key.toList.head? == some '$'

end Document

end DocStore
