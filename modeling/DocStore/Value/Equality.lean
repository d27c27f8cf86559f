import DocStore.Value

namespace DocStore

mutual

-- Documents are the same without regard to the order of their keys, numbers of one type as
-- the type has it. What is not a number differs from itself.
def Value.same : Value → Value → Bool
  | .null, .null => true
  | .boolean a, .boolean b => a == b
  | .int32 a, .int32 b => a == b
  | .int64 a, .int64 b => a == b
  | .double a, .double b => a.equal b
  | .decimal a, .decimal b => decide (a = b)
  | .string a, .string b => a == b
  | .symbol a, .symbol b => a == b
  | .array a, .array b => Value.sameItems a b
  | .document a, .document b => a.length == b.length && Value.sameFields a b
  | .objectId a, .objectId b => decide (a = b)
  | .date a, .date b => a == b
  | .regex p o, .regex p' o' => p == p' && o == o'
  | .dbPointer c a, .dbPointer c' b => c == c' && decide (a = b)
  | .binary s a, .binary s' b => s == s' && a == b
  | .timestamp t i, .timestamp t' i' => t == t' && i == i'
  | .code a, .code b => a == b
  | .codeWithScope a s, .codeWithScope b t => a == b && s.length == t.length && Value.sameFields s t
  | .minKey, .minKey => true
  | .maxKey, .maxKey => true
  | .undefined, .undefined => true
  | _, _ => false

def Value.sameItems : List Value → List Value → Bool
  | [], [] => true
  | a :: as, b :: bs => Value.same a b && Value.sameItems as bs
  | _, _ => false

-- Whether every field of the first list stands in the second.
def Value.sameFields : List (String × Value) → List (String × Value) → Bool
  | [], _ => true
  | (key, a) :: rest, other =>
    (match OrderedMap.get? other key with
      | some b => Value.same a b
      | none => false) && Value.sameFields rest other

end

namespace Document

def same (a b : Document) : Bool := (Value.document a).same (.document b)

end Document

-- Whether two optional values are both absent or the same.
def Value.sameOption : Option Value → Option Value → Bool
  | none, none => true
  | some a, some b => a.same b
  | _, _ => false

end DocStore
