import DocStore.Error.Store
import DocStore.Value.Order
import DocStore.Value.Path

namespace DocStore

namespace Document

def maxSortKeys : Nat := 32

def isDescending (direction : Value) : Bool :=
  match direction.toDouble? with
  | some x => x.isNegativeNumber
  | none => false

-- What is missing comes before everything else.
def compareAt (a b : Option Value) : Ordering :=
  match a, b with
  | some x, some y => x.order y
  | some _, none => .gt
  | none, some _ => .lt
  | none, none => .eq

-- The earlier paths decide first.
def compareBy : Document → Document → Document → Ordering
  | [], _, _ => .eq
  | (path, direction) :: rest, a, b =>
    match compareAt (a.getPath? path) (b.getPath? path) with
    | .eq => compareBy rest a b
    | o => if isDescending direction then o.swap else o

-- Puts a document in front of those after which it has to come; the sorted
-- documents stand in reverse.
def insertSorted (sort d : Document) : List Document → List Document
  | [] => [d]
  | e :: rest =>
    if compareBy sort d e = .lt then e :: insertSorted sort d rest else d :: e :: rest

def sortBy (sort : Document) (docs : List Document) : List Document :=
  (docs.foldl (fun sorted d => insertSorted sort d sorted) []).reverse

def checkSort (sort : Document) : Except StoreError Unit :=
  if maxSortKeys < sort.length then .error (.tooManySortKeys sort.length maxSortKeys) else .ok ()

end Document

end DocStore
