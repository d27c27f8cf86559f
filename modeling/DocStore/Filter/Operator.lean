import DocStore.Text.Case

namespace DocStore

inductive FilterOp where
  | eq
  | ne
  | contains
  | startsWith
  | endsWith
  | oneOf
  | noneOf
  | gt
  | gte
  | lt
  | lte
  | range
  | and
  | or
  | not
  | all
  | elemMatch
  | text
  deriving DecidableEq

namespace FilterOp

def name : FilterOp → String
  | eq => "$eq"
  | ne => "$ne"
  | contains => "$contains"
  | startsWith => "$startwith"
  | endsWith => "$endwith"
  | oneOf => "$in"
  | noneOf => "$nin"
  | gt => "$gt"
  | gte => "$gte"
  | lt => "$lt"
  | lte => "$lte"
  | range => "$range"
  | and => "$and"
  | or => "$or"
  | not => "$not"
  | all => "$all"
  | elemMatch => "$elemMatch"
  | text => "$text"

def isComposite : FilterOp → Bool
  | and => true
  | or => true
  | not => true
  | _ => false

-- Spellings in small letters and without the dollar sign.
def spellings : List (String × FilterOp) :=
  [
    ("eq", eq), ("ne", ne), ("contains", contains), ("startwith", startsWith),
    ("startswith", startsWith), ("endwith", endsWith), ("endswith", endsWith), ("in", oneOf),
    ("nin", noneOf), ("gt", gt), ("gte", gte), ("lt", lt), ("lte", lte), ("range", range),
    ("between", range), ("and", and), ("or", or), ("not", not), ("all", all),
    ("elemmatch", elemMatch), ("text", text), ("search", text)
  ]

def withoutDollar (s : String) : String :=
  match s.toList with
  | '$' :: rest => String.ofList rest
  | _ => s

def ofName? (s : String) : Option FilterOp :=
  spellings.lookup (Text.asciiLowercase (withoutDollar s))

end FilterOp

end DocStore
