import DocStore.Text.Blank

namespace DocStore

inductive AggregateOp where
  | sum
  | count
  | avg
  | min
  | max
  | first
  | last
  | push
  deriving DecidableEq

namespace AggregateOp

def word : AggregateOp → String
  | sum => "sum"
  | count => "count"
  | avg => "avg"
  | min => "min"
  | max => "max"
  | first => "first"
  | last => "last"
  | push => "push"

def name (op : AggregateOp) : String := "$" ++ op.word

end AggregateOp

structure AggregateItem where
  op : AggregateOp
  field : String
  -- The name of the result.
  label : String
  deriving DecidableEq

namespace AggregateItem

-- The result goes by the name of its field.
def ofField (op : AggregateOp) (field : String) : AggregateItem := ⟨op, field, field⟩

def count (label : String) : AggregateItem := ⟨.count, "", label⟩

def withLabel (item : AggregateItem) (label : String) : AggregateItem := { item with label }

-- The key of the result: the label, or else the field, or else the operator,
-- with underscores for dots.
def outputKey (item : AggregateItem) : String :=
  if !item.label.isEmpty then Text.replaceChar '.' '_' item.label
  else if item.field.isEmpty then item.op.word
  else Text.replaceChar '.' '_' item.field

end AggregateItem

end DocStore
