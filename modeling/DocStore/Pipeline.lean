import DocStore.Document.Sort
import DocStore.Pipeline.Group
import DocStore.Selector

namespace DocStore

namespace Pipeline

def documentOf (stage : String) : Value → Except StoreError Document
  | .document d => .ok d
  | _ => .error (.documentExpected stage)

def countOf (stage : String) (arg : Value) : Except StoreError Nat :=
  match arg.toWhole? with
  | some n => if 0 ≤ n then .ok n.toNat else .error (.countExpected stage)
  | none => .error (.countExpected stage)

def runStage (name : String) (arg : Value) (docs : List Document) :
    Except StoreError (List Document) :=
  match name with
  | "$match" => do Selector.select (← documentOf name arg) docs
  | "$group" => do group (← documentOf name arg) docs
  | "$sort" => do
    let sort ← documentOf name arg
    sort.checkSort
    return sort.sortBy docs
  | "$skip" => do return docs.drop (← countOf name arg)
  | "$limit" => do return docs.take (← countOf name arg)
  | "$project" => do Document.projectAll (← documentOf name arg) docs
  | "$count" =>
    match arg with
    | .string field => .ok [[(field, Value.ofInt docs.length)]]
    | _ => .error .countFieldExpected
  | _ => .error (.unknownStage name)

def run : List Document → List Document → Except StoreError (List Document)
  | [], docs => .ok docs
  | [(name, arg)] :: rest, docs => do run rest (← runStage name arg docs)
  | _ :: _, _ => .error .stageKeys

end Pipeline

end DocStore
