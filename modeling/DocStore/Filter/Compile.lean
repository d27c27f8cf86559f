import DocStore.Filter
import DocStore.Number.DoubleText
import DocStore.Regex.Mode

namespace DocStore

-- What `and` and `or` do with a child that fails.
inductive CompositePolicy where
  | permissive
  | strict
  deriving DecidableEq

namespace Filter

-- One operator applied to one field.
def operatorOn (path op : String) (v : Value) : Document := [(path, .document [(op, v)])]

def patternOn (path pattern : String) : Document :=
  [(path, .document [("$regex", .string pattern), ("$options", .string "i")])]

-- The text that a pattern operator looks for, as a pattern.
def needle (v : Value) : Except DbError String :=
  match v with
  | .string s => .ok (Regex.escape s)
  | .int32 n => .ok (Regex.escape (toString n.toInt))
  | .int64 n => .ok (Regex.escape (toString n.toInt))
  | .double x => .ok (Regex.escape x.text)
  | v => .error (.malformed (.patternOperand v))

def containsOn (path : String) (v : Value) : Except DbError Document := do
  return patternOn path (".*" ++ (← needle v) ++ ".*")

def containsEach (path : String) : List Value → Except DbError (List Value)
  | [] => .ok []
  | v :: rest => do
    let d ← containsOn path v
    return .document d :: (← containsEach path rest)

def compileCondition (path : String) : Condition → Except DbError Document
  | .equal v => .ok [(path, v)]
  | .notEqual v => .ok (operatorOn path "$ne" v)
  | .greater v => .ok (operatorOn path "$gt" v)
  | .atLeast v => .ok (operatorOn path "$gte" v)
  | .less v => .ok (operatorOn path "$lt" v)
  | .atMost v => .ok (operatorOn path "$lte" v)
  | .within low high =>
    .ok [("$and", .array [.document (operatorOn path "$gte" low), .document (operatorOn path "$lte" high)])]
  | .oneOf vs => .ok (operatorOn path "$in" (.array vs))
  | .noneOf vs => .ok (operatorOn path "$nin" (.array vs))
  | .contains [] => .error (.malformed (.needleMissing path))
  | .contains [v] => containsOn path v
  | .contains vs => do return [("$or", .array (← containsEach path vs))]
  | .startsWith v => do return patternOn path ("^" ++ (← needle v) ++ ".*$")
  | .endsWith v => do return patternOn path ("^.*" ++ (← needle v) ++ "$")
  | .all v =>
    if path.isEmpty then .error (.precondition .fieldForAll)
    else
      match v with
      | .array _ => .ok (operatorOn path "$all" v)
      | v => .error (.malformed (.allExpectsList path v))

-- The negation of a condition on one field stays with the field. Everything
-- else is negated as a whole.
def negation (path? : Option String) (d : Document) : Document :=
  let whole : Document := [("$nor", .array [.document d])]
  match path?, d with
  | some path, [(key, v)] =>
    if key = path then
      match v with
      | .document _ => operatorOn path "$not" v
      | .regex _ _ => operatorOn path "$not" v
      | v => operatorOn path "$not" (.document [("$eq", v)])
    else whole
  | _, _ => whole

def insertAll (d : Document) (fields : Document) : Document :=
  fields.foldl (fun d field => OrderedMap.insert d field.1 field.2) d

mutual

def compile (policy : CompositePolicy) : Filter → Except DbError Document
  | .field path condition => compileCondition path condition
  | .elemMatch path items =>
    match compileMerged policy [] items with
    | .ok d => .ok (operatorOn path "$elemMatch" (.document d))
    | .error e => .error e
  | .text search => .ok [("$text", .document [("$search", .string search)])]
  | .and items =>
    match compileItems policy items with
    | .ok clauses => .ok [("$and", .array clauses)]
    | .error e => .error e
  | .or items =>
    match compileItems policy items with
    | .ok clauses => .ok [("$or", .array clauses)]
    | .error e => .error e
  | .not [] => .error (.malformed (.oneFilterExpected 0))
  | .not [child] =>
    match compile policy child with
    | .ok d => .ok (negation child.path? d)
    | .error e => .error e
  | .not (_ :: _ :: rest) => .error (.malformed (.oneFilterExpected (rest.length + 2)))
  | .invalid rejection => .error rejection.toError

-- The children of `and` and `or`.
def compileItems (policy : CompositePolicy) : List Filter → Except DbError (List Value)
  | [] => .ok []
  | item :: rest =>
    match compile policy item with
    | .ok d =>
      match compileItems policy rest with
      | .ok clauses => .ok (.document d :: clauses)
      | .error e => .error e
    | .error e =>
      match policy with
      | .permissive => compileItems policy rest
      | .strict => .error e

-- The items of an element match in one document, later keys replacing earlier ones.
def compileMerged (policy : CompositePolicy) (merged : Document) :
    List Filter → Except DbError Document
  | [] => .ok merged
  | item :: rest =>
    match compile policy item with
    | .ok d => compileMerged policy (insertAll merged d) rest
    | .error e => .error e

end

end Filter

end DocStore
