import DocStore.Error

namespace DocStore

-- What a filter demands of the value of one field.
inductive Condition where
  | equal (v : Value)
  | notEqual (v : Value)
  | greater (v : Value)
  | atLeast (v : Value)
  | less (v : Value)
  | atMost (v : Value)
  -- Between two bounds, both included.
  | within (low high : Value)
  | oneOf (vs : List Value)
  | noneOf (vs : List Value)
  -- Text that holds one of the needles, begins with one or ends with one,
  -- whatever the case of the letters.
  | contains (needles : List Value)
  | startsWith (needle : Value)
  | endsWith (needle : Value)
  | all (v : Value)

inductive Filter where
  | field (path : String) (condition : Condition)
  -- Some element of an array meets all the items.
  | elemMatch (path : String) (items : List Filter)
  | text (search : String)
  | and (items : List Filter)
  | or (items : List Filter)
  | not (items : List Filter)
  -- A written clause that is no filter, kept for the composite around it.
  | invalid (rejection : Rejection)

-- An operator by its name.
def FilterOp.ofText (s : String) : Except DbError FilterOp :=
  match FilterOp.ofName? s with
  | some op => .ok op
  | none => .error (.unknownOperator s)

def Condition.op : Condition → FilterOp
  | equal _ => .eq
  | notEqual _ => .ne
  | greater _ => .gt
  | atLeast _ => .gte
  | less _ => .lt
  | atMost _ => .lte
  | within _ _ => .range
  | oneOf _ => .oneOf
  | noneOf _ => .noneOf
  | contains _ => .contains
  | startsWith _ => .startsWith
  | endsWith _ => .endsWith
  | all _ => .all

namespace Filter

def op? : Filter → Option FilterOp
  | field _ condition => some condition.op
  | elemMatch _ _ => some .elemMatch
  | text _ => some .text
  | and _ => some .and
  | or _ => some .or
  | not _ => some .not
  | invalid _ => none

def path? : Filter → Option String
  | field path _ => some path
  | elemMatch path _ => some path
  | _ => none

def items : Filter → List Filter
  | elemMatch _ items => items
  | and items => items
  | or items => items
  | not items => items
  | _ => []

end Filter

end DocStore
