import DocStore.Selector.Test

namespace DocStore

namespace Document

-- A path that names another one: a dollar sign and the path.
def reference? (s : String) : Option String :=
  match s.toList with
  | '$' :: path => some (String.ofList path)
  | _ => none

-- Numbers other than decimals and truth values switch a field on or off.
def isSwitch : Value → Bool
  | .boolean _ => true
  | .int32 _ => true
  | .int64 _ => true
  | .double _ => true
  | _ => false

-- What a projection asks for, entry by entry.
structure Selection where
  withId : Bool := true
  -- Fields to show, with their values where there are any.
  shown : List (String × Option Value) := []
  leftOut : List String := []

def Selection.show (s : Selection) (field : String) (v : Option Value) : Selection :=
  { s with shown := s.shown ++ [(field, v)] }

def Selection.add (d : Document) (s : Selection) (field : String) (spec : Value) : Selection :=
  if field = "_id" ∧ isSwitch spec then { s with withId := Selector.isTruthy spec }
  else if isSwitch spec then
    if Selector.isTruthy spec then s.show field (d.getPath? field)
    else { s with leftOut := s.leftOut ++ [field] }
  else
    match spec with
    | .string text =>
      match reference? text with
      | some path => s.show field (d.getPath? path)
      | none => s.show field (some spec)
    | _ => s.show field (some spec)

def selectionOf (d projection : Document) : Selection :=
  projection.foldl (fun s entry => s.add d entry.1 entry.2) {}

def withoutPaths (d : Document) (paths : List String) : Document :=
  paths.foldl (fun d path => (d.unsetPath path).1) d

def withPaths (d : Document) (fields : List (String × Option Value)) : Document :=
  fields.foldl (fun d field =>
    match field.2 with
    | some v => (d.setPath field.1 v).1
    | none => d) d

-- Shows what is asked for and the identifier, or all but what is left out.
def project (projection d : Document) : Except StoreError Document :=
  let s := selectionOf d projection
  if !s.shown.isEmpty && !s.leftOut.isEmpty then .error .mixedProjection
  else if s.shown.isEmpty then
    let rest := d.withoutPaths s.leftOut
    .ok (if s.withId then rest else rest.erase "_id")
  else
    let start : Document :=
      match d.get? "_id" with
      | some id => if s.withId then [("_id", id)] else []
      | none => []
    .ok (start.withPaths s.shown)

def projectAll (projection : Document) : List Document → Except StoreError (List Document)
  | [] => .ok []
  | d :: rest => do return (← project projection d) :: (← projectAll projection rest)

end Document

end DocStore
