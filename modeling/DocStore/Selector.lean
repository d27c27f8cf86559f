import DocStore.Selector.Test

namespace DocStore

namespace Selector

-- Whether some item passes, up to the first that does or fails.
def anyItem (test : Value → Except StoreError Bool) : List Value → Except StoreError Bool
  | [] => .ok false
  | item :: rest =>
    match test item with
    | .ok false => anyItem test rest
    | r => r

def negated (r : Except StoreError Bool) : Except StoreError Bool := r.map (!·)

-- The options that stand beside a regular expression.
def optionsOf (operators : Document) : String := (operators.string? "$options").getD ""

-- A condition without operators: a regular expression, or a value to be equal to.
def literal (v : Option Value) : Value → Except StoreError Bool
  | .regex pattern options => fitsRegex v pattern options
  | target => .ok (equals v target)

def isLogical (key : String) : Bool := key == "$and" || key == "$or" || key == "$nor"

-- An entry that holds no query documents and no operators.
def plainEntry (d : Document) (key : String) (arg : Value) : Except StoreError Bool :=
  if isLogical key then .error (.arrayExpected key)
  else if key = "$text" then hasText d arg
  else if Text.startsWithChar '$' key then .error (.unknownTopLevelOperator key)
  else literal (d.getPath? key) arg

-- An operator whose argument holds no query documents and no operators.
def plainOperator (v : Option Value) (options op : String) (arg : Value) : Except StoreError Bool :=
  if op = "$eq" then .ok (equals v arg)
  else if op = "$ne" then .ok (!equals v arg)
  else if op = "$gt" then .ok (compares (· == .gt) v arg)
  else if op = "$gte" then .ok (compares (· != .lt) v arg)
  else if op = "$lt" then .ok (compares (· == .lt) v arg)
  else if op = "$lte" then .ok (compares (· != .gt) v arg)
  else if op = "$in" then (setOf op arg).map (isIn v)
  else if op = "$nin" then (setOf op arg).map fun set => !isIn v set
  else if op = "$exists" then .ok (v.isSome == isTruthy arg)
  else if op = "$regex" then
    match patternOf arg with
    | .ok pattern => fitsRegex v pattern options
    | .error e => .error e
  else if op = "$options" then .ok true
  else if op = "$not" then negated (literal v arg)
  else if op = "$all" then (arrayOf op arg).map fun wanted => wanted.all (equals v)
  else if op = "$elemMatch" then .error (.documentExpected op)
  else if op = "$size" then .ok (hasSize v arg)
  else .error (.unknownOperator op)

mutual

def entries (d : Document) : List (String × Value) → Except StoreError Bool
  | [] => .ok true
  | (key, arg) :: rest =>
    match entry d key arg with
    | .ok true => entries d rest
    | r => r
termination_by structural selector => selector

def entry (d : Document) (key : String) : Value → Except StoreError Bool
  | .array items =>
    if isLogical key && !items.all (·.document?.isSome) then .error (.entriesExpected key)
    else if key = "$and" then every d items
    else if key = "$or" then anyOf d items
    else if key = "$nor" then negated (anyOf d items)
    else plainEntry d key (.array items)
  | .document fields =>
    if Text.startsWithChar '$' key then plainEntry d key (.document fields)
    else if Document.isOperator fields then operators (d.getPath? key) (optionsOf fields) fields
    else plainEntry d key (.document fields)
  | arg => plainEntry d key arg
termination_by structural arg => arg

-- Whether all query documents hold, up to the first that does not.
def every (d : Document) : List Value → Except StoreError Bool
  | [] => .ok true
  | .document selector :: rest =>
    match entries d selector with
    | .ok true => every d rest
    | r => r
  | _ :: rest => every d rest
termination_by structural selectors => selectors

-- Whether some query document holds, up to the first that does.
def anyOf (d : Document) : List Value → Except StoreError Bool
  | [] => .ok false
  | .document selector :: rest =>
    match entries d selector with
    | .ok false => anyOf d rest
    | r => r
  | _ :: rest => anyOf d rest
termination_by structural selectors => selectors

def operators (v : Option Value) (options : String) : List (String × Value) → Except StoreError Bool
  | [] => .ok true
  | (op, arg) :: rest =>
    match operator v options op arg with
    | .ok true => operators v options rest
    | r => r
termination_by structural fields => fields

def operator (v : Option Value) (options op : String) : Value → Except StoreError Bool
  | .document fields =>
    if op = "$not" then
      if Document.isOperator fields then negated (operators v (optionsOf fields) fields)
      else .ok (!equals v (.document fields))
    else if op = "$elemMatch" then
      match v with
      | some (.array items) =>
        if Document.isOperator fields then
          anyItem (fun item => operators (some item) (optionsOf fields) fields) items
        else
          anyItem (fun item =>
            match item with
            | .document d => entries d fields
            | _ => .ok false) items
      | _ => .ok false
    else plainOperator v options op (.document fields)
  | arg => plainOperator v options op arg
termination_by structural arg => arg

end

-- What a path is paired with: operators, or a condition without them.
def condition (v : Option Value) (arg : Value) : Except StoreError Bool :=
  match arg with
  | .document fields =>
    if Document.isOperator fields then operators v (optionsOf fields) fields
    else .ok (equals v (.document fields))
  | arg => literal v arg

-- Whether the document is selected.
def holds (d : Document) (selector : Document) : Except StoreError Bool := entries d selector

-- The documents that are selected, in their order; all have to be decidable.
def select (selector : Document) : List Document → Except StoreError (List Document)
  | [] => .ok []
  | d :: rest =>
    match holds d selector with
    | .ok true => (select selector rest).map (d :: ·)
    | .ok false => select selector rest
    | .error e => .error e

end Selector

end DocStore
