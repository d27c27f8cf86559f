import DocStore.Error.Store
import DocStore.Value.Path

namespace DocStore

namespace Value

-- The larger of two whole numbers' types, widened when the sum does not fit.
-- A sum that fits no whole number stops at the end of the range; anything
-- else is added as floating-point numbers, no number counting as zero.
def addNumber (current step : Value) (amount : Double) : Value :=
  match current, step with
  | int32 a, int32 b => ofInt (a.toInt + b.toInt)
  | int32 a, int64 b => int64 (Int64.ofInt (clamp64 (a.toInt + b.toInt)))
  | int64 a, int32 b => int64 (Int64.ofInt (clamp64 (a.toInt + b.toInt)))
  | int64 a, int64 b => int64 (Int64.ofInt (clamp64 (a.toInt + b.toInt)))
  | _, _ => double ((current.toDouble?.getD (Double.zero false)) + amount)

end Value

namespace Document

-- One operator on one path: the new document and whether it differs.
def applyOperator (op path : String) (v : Value) (d : Document) : Except StoreError (Document × Bool) :=
  if path = "_id" ∧ op ≠ "$set" then .ok (d, false)
  else if op = "$set" then
    match d.get? "_id" with
    | some current =>
      if path = "_id" ∧ current.same v = false then .error .identifierImmutable
      else .ok (d.setPath path v)
    | none => .ok (d.setPath path v)
  else if op = "$unset" then .ok (d.unsetPath path)
  else if op = "$inc" then
    match v.toDouble? with
    | none => .error .incrementNotNumeric
    | some amount =>
      let current := (d.getPath? path).getD (.int32 0)
      .ok (d.setPath path (current.addNumber v amount))
  else .error (.unknownUpdateOperator op)

-- The document as far as it got, and whether something changed.
structure UpdateResult where
  document : Document
  outcome : Except StoreError Bool

def applyFields (op : String) : Document → Document → UpdateResult
  | [], d => ⟨d, .ok false⟩
  | (path, v) :: rest, d =>
    match applyOperator op path v d with
    | .error e => ⟨d, .error e⟩
    | .ok (d, changed) =>
      let result := applyFields op rest d
      { result with outcome := result.outcome.map (changed || ·) }

-- Operators work in order, and what an earlier one has done stays when a later one fails.
def applyUpdate : Document → Document → UpdateResult
  | [], d => ⟨d, .ok false⟩
  | (op, .document fields) :: rest, d =>
    let first := applyFields op fields d
    match first.outcome with
    | .error e => ⟨first.document, .error e⟩
    | .ok changed =>
      let result := applyUpdate rest first.document
      { result with outcome := result.outcome.map (changed || ·) }
  | (op, _) :: _, d => ⟨d, .error (.documentExpected op)⟩

end Document

end DocStore
