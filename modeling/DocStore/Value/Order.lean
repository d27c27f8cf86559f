import DocStore.Value

namespace DocStore

namespace Value

def typeRank : Value → Nat
  | minKey => 0
  | null => 1
  | undefined => 1
  | int32 _ => 2
  | int64 _ => 2
  | double _ => 2
  | decimal _ => 2
  | symbol _ => 3
  | string _ => 3
  | document _ => 4
  | array _ => 5
  | binary _ _ => 6
  | objectId _ => 7
  | boolean _ => 8
  | date _ => 9
  | timestamp _ _ => 10
  | regex _ _ => 11
  | dbPointer _ _ => 12
  | code _ => 13
  | codeWithScope _ _ => 14
  | maxKey => 255

def compareNumbers (a b : Value) : Ordering :=
  (a.toDouble?.getD (Double.nan false)).totalCompare (b.toDouble?.getD (Double.nan false))

def compareText (s t : String) : Ordering :=
  if s < t then .lt else if s = t then .eq else .gt

mutual

def order : Value → Value → Ordering
  | .string s, .string t => compareText s t
  | .boolean a, .boolean b => compare a.toNat b.toNat
  | .date a, .date b => compare a.toInt b.toInt
  | .objectId a, .objectId b => compare a.bits.toNat b.bits.toNat
  | .array a, .array b => orderItems a b
  | a, b => if a.isNumber && b.isNumber then compareNumbers a b else compare a.typeRank b.typeRank

-- The first difference decides; a beginning comes before the whole.
def orderItems : List Value → List Value → Ordering
  | [], [] => .eq
  | [], _ :: _ => .lt
  | _ :: _, [] => .gt
  | a :: as, b :: bs =>
    match order a b with
    | .eq => orderItems as bs
    | o => o

end

-- Whether an order between the two means anything.
def comparable (a b : Value) : Bool :=
  (a.isNumber && b.isNumber) || a.typeRank == b.typeRank

end Value

end DocStore
