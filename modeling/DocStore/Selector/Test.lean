import DocStore.Error.Store
import DocStore.Regex.Pattern
import DocStore.Regex.Run
import DocStore.Text.Case
import DocStore.Value.Order
import DocStore.Value.Path

namespace DocStore

namespace Selector

-- Numbers are equal when neither is before the other, whatever their types.
def equalValues (a b : Value) : Bool :=
  if a.isNumber && b.isNumber then a.order b == .eq else a.same b

def equals (v : Option Value) (target : Value) : Bool :=
  match v with
  | none => target.isNull
  | some (.array items) => equalValues (.array items) target || items.any (equalValues · target)
  | some v => equalValues v target

-- Whether an ordering with the target exists and is one that is wanted.
def compares (wanted : Ordering → Bool) (v : Option Value) (target : Value) : Bool :=
  let passes (v : Value) : Bool := v.comparable target && wanted (v.order target)
  match v with
  | none => false
  | some (.array items) => items.any passes
  | some v => passes v

def isIn (v : Option Value) (set : List Value) : Bool := set.any (equals v)

-- Whether a value counts as true.
def isTruthy : Value → Bool
  | .boolean b => b
  | .null => false
  | v =>
    match v.toDouble? with
    | some x => !x.isZero
    | none => true

def hasSize (v : Option Value) (size : Value) : Bool :=
  match v, size.toWhole? with
  | some (.array items), some n => decide ((items.length : Int) = n)
  | _, _ => false

def arrayOf (op : String) : Value → Except StoreError (List Value)
  | .array items => .ok items
  | _ => .error (.arrayExpected op)

def maxSet : Nat := 1000

def setOf (op : String) (arg : Value) : Except StoreError (List Value) := do
  let set ← arrayOf op arg
  if maxSet < set.length then .error (.setTooLarge op maxSet set.length) else return set

def modeOf (options : String) : Regex.Mode :=
  let flags := options.toList
  { anyCase := flags.contains 'i', multiLine := flags.contains 'm', dotAll := flags.contains 's' }

def isStringMatch (r : Regex) : Value → Bool
  | .string s => r.isMatch s.toList
  | _ => false

-- The pattern has to be one even where no text is compared with it.
def fitsRegex (v : Option Value) (pattern options : String) : Except StoreError Bool :=
  match Regex.ofPattern (modeOf options) pattern with
  | .error e => .error (.regexInvalid pattern e)
  | .ok r =>
    match v with
    | some (.array items) => .ok (items.any (isStringMatch r))
    | some v => .ok (isStringMatch r v)
    | none => .ok false

def patternOf : Value → Except StoreError String
  | .string pattern => .ok pattern
  | .regex pattern _ => .ok pattern
  | _ => .error .regexExpected

mutual

-- All texts in a value, at any depth.
def texts : Value → List String
  | .string s => [s]
  | .array items => textsOfItems items
  | .document fields => textsOfFields fields
  | _ => []

def textsOfItems : List Value → List String
  | [] => []
  | v :: rest => texts v ++ textsOfItems rest

def textsOfFields : List (String × Value) → List String
  | [] => []
  | (_, v) :: rest => texts v ++ textsOfFields rest

end

def searchOf : Value → Except StoreError String
  | .document d =>
    match Document.string? d "$search" with
    | some search => .ok search
    | none => .error .searchMissing
  | _ => .error .searchMissing

-- Whether some text in the document holds one of the words of the search,
-- whatever the case of the letters.
def hasText (d : Document) (arg : Value) : Except StoreError Bool := do
  let terms := (Text.words (← searchOf arg)).map Text.lowercased
  return (texts (.document d)).any fun s =>
    let s := (Text.lowercased s).toList
    terms.any fun term => Text.occursIn term.toList s

end Selector

end DocStore
