import DocStore.Document.Projection
import DocStore.Value.Equality
import DocStore.Value.Order

namespace DocStore

namespace Pipeline

mutual

-- An expression of a document: a reference to a path, a document of
-- expressions, or a value that stands for itself.
def evaluate (d : Document) : Value → Value
  | .string s =>
    match Document.reference? s with
    | some path => (d.getPath? path).getD .null
    | none => .string s
  | .document fields => .document (evaluateFields d fields)
  | v => v
termination_by structural v => v

def evaluateFields (d : Document) : List (String × Value) → List (String × Value)
  | [] => []
  | (key, v) :: rest => (key, evaluate d v) :: evaluateFields d rest
termination_by structural fields => fields

end

inductive Accumulator where
  -- The sum of all numbers, the sum of the whole ones cut to 64 bits, and
  -- whether there were no others.
  | sum (total : Double) (whole : Int) (isWhole : Bool)
  | avg (total : Double) (count : Nat)
  | min (best : Option Value)
  | max (best : Option Value)
  | first (v : Option Value)
  | last (v : Option Value)
  | push (items : List Value)

namespace Accumulator

def ofName (name : String) : Except StoreError Accumulator :=
  match name with
  | "$sum" => .ok (sum (Double.zero false) 0 true)
  | "$avg" => .ok (avg (Double.zero false) 0)
  | "$min" => .ok (min none)
  | "$max" => .ok (max none)
  | "$first" => .ok (first none)
  | "$last" => .ok (last none)
  | "$push" => .ok (push [])
  | _ => .error (.unknownAccumulator name)

def isWhole : Value → Bool
  | .int32 _ => true
  | .int64 _ => true
  | _ => false

-- The better of the best value so far and a new one; null is never better.
def better (wanted : Ordering) (best : Option Value) (v : Value) : Option Value :=
  if v.isNull then best
  else
    match best with
    | none => some v
    | some b => if v.order b = wanted then some v else some b

def feed (v : Value) : Accumulator → Accumulator
  | sum total whole allWhole =>
    match v.toDouble? with
    | none => sum total whole allWhole
    | some x =>
      if isWhole v then sum (total + x) (Value.clamp64 (whole + v.toWhole?.getD 0)) allWhole
      else sum (total + x) whole false
  | avg total count =>
    match v.toDouble? with
    | none => avg total count
    | some x => avg (total + x) (count + 1)
  | min best => min (better .lt best v)
  | max best => max (better .gt best v)
  | first none => first (some v)
  | first (some w) => first (some w)
  | last _ => last (some v)
  | push items => push (items ++ [v])

def result : Accumulator → Value
  | sum total whole allWhole => if allWhole then Value.ofInt whole else .double total
  | avg total count => if count = 0 then .null else .double (total / Double.ofInt count)
  | min best => best.getD .null
  | max best => best.getD .null
  | first v => v.getD .null
  | last v => v.getD .null
  | push items => .array items

end Accumulator

-- A column of the result: its key, the name of its accumulator and what is
-- fed into it.
structure Column where
  key : String
  accumulator : String
  expression : Value

def columnsOf : List (String × Value) → Except StoreError (List Column)
  | [] => .ok []
  | (key, spec) :: rest =>
    if key = "_id" then columnsOf rest
    else
      match spec with
      | .document [(accumulator, expression)] =>
        (columnsOf rest).map (⟨key, accumulator, expression⟩ :: ·)
      | _ => .error (.accumulatorForm key)

structure Row where
  key : Value
  accumulators : List Accumulator

def Row.feed (columns : List Column) (d : Document) (row : Row) : Row :=
  { row with
    accumulators :=
      List.zipWith (fun acc column => acc.feed (evaluate d column.expression)) row.accumulators columns }

def startAll : List Column → Except StoreError (List Accumulator)
  | [] => .ok []
  | column :: rest => do return (← Accumulator.ofName column.accumulator) :: (← startAll rest)

-- Feeds a document to the row of its key, which is made when there is none.
def addTo (columns : List Column) (d : Document) (key : Value) : List Row → Except StoreError (List Row)
  | [] => do return [Row.feed columns d ⟨key, ← startAll columns⟩]
  | row :: rest =>
    if row.key.same key then .ok (row.feed columns d :: rest)
    else (addTo columns d key rest).map (row :: ·)

def rowsOf (keyExpression : Value) (columns : List Column) :
    List Row → List Document → Except StoreError (List Row)
  | rows, [] => .ok rows
  | rows, d :: rest =>
    match addTo columns d (evaluate d keyExpression) rows with
    | .ok rows => rowsOf keyExpression columns rows rest
    | .error e => .error e

def Row.toDocument (columns : List Column) (row : Row) : Document :=
  (List.zip columns row.accumulators).foldl
    (fun d (column, acc) => OrderedMap.insert d column.key acc.result) [("_id", row.key)]

def group (spec : Document) (docs : List Document) : Except StoreError (List Document) := do
  match spec.get? "_id" with
  | none => .error .groupKeyMissing
  | some keyExpression =>
    let columns ← columnsOf spec
    let rows ← rowsOf keyExpression columns [] docs
    return rows.map (Row.toDocument columns)

end Pipeline

end DocStore
