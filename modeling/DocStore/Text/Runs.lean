namespace DocStore.Text

-- Every `stride`-th code point from `first` to `last`.
structure Run where
  first : Nat
  last : Nat
  stride : Nat
  deriving DecidableEq

-- A run whose members are moved by `shift`.
structure ShiftedRun where
  first : Nat
  last : Nat
  stride : Nat
  shift : Int
  deriving DecidableEq

def Run.contains (r : Run) (n : Nat) : Bool :=
  decide (r.first ≤ n ∧ n ≤ r.last ∧ (n - r.first) % r.stride = 0)

def ShiftedRun.contains (r : ShiftedRun) (n : Nat) : Bool :=
  decide (r.first ≤ n ∧ n ≤ r.last ∧ (n - r.first) % r.stride = 0)

def ShiftedRun.move (r : ShiftedRun) (n : Nat) : Nat := ((n : Int) + r.shift).toNat

-- The member of the run that moves to `n`, if there is one.
def ShiftedRun.moveBack? (r : ShiftedRun) (n : Nat) : Option Nat :=
  let source := (n : Int) - r.shift
  if 0 ≤ source ∧ r.contains source.toNat then some source.toNat else none

def inRuns (runs : List Run) (n : Nat) : Bool := runs.any (·.contains n)

def inRanges (ranges : List (Nat × Nat)) (n : Nat) : Bool :=
  ranges.any fun r => decide (r.1 ≤ n ∧ n ≤ r.2)

-- Where the table moves `n`; code points outside of it stay.
def shifted (runs : List ShiftedRun) (n : Nat) : Nat :=
  match runs.find? (·.contains n) with
  | some r => r.move n
  | none => n

end DocStore.Text
