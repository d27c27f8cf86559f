import DocStore.Json.Text
import DocStore.Json.Number
import DocStore.OrderedMap

namespace DocStore.JsonText

def text? : JsonText → Option String
  | string s => s
  | _ => none

def integer? : JsonText → Option Int
  | number n =>
    match n.value? with
    | some (.whole n) => some n
    | _ => none
  | _ => none

def isCompound : JsonText → Bool
  | array _ => true
  | object _ => true
  | _ => false

-- Keeps the fields that have a name in the list. Unknown fields are passed
-- over or refused, repeated ones are refused.
def recordFields? (passOver : Bool) (names : List String) :
    OrderedMap JsonText → List (Option String × JsonText) → Option (OrderedMap JsonText)
  | found, [] => some found
  | _, (none, _) :: _ => none
  | found, (some key, item) :: rest =>
    if names.contains key then
      if found.contains key then none
      else recordFields? passOver names (found.insert key item) rest
    else if passOver then recordFields? passOver names found rest
    else none

def record? (passOver : Bool) (names : List String) : JsonText → Option (OrderedMap JsonText)
  | object fields => recordFields? passOver names [] fields
  | array items => if items.length ≤ names.length then some (names.zip items) else none
  | _ => none

-- The fields of a record that has them all and no others.
def exactRecord? (names : List String) (text : JsonText) : Option (OrderedMap JsonText) := do
  let found ← record? false names text
  if found.length = names.length then some found else none

end DocStore.JsonText
