import DocStore.Text.Runs

namespace DocStore.Text

-- Spans of code points in ascending order, with a gap between any two, and without the
-- surrogates, which are no characters.
abbrev Spans : Type := List (Nat × Nat)

-- The code points of a run in ascending order.
def Run.ranges (r : Run) : List (Nat × Nat) :=
  if r.stride = 1 then [(r.first, r.last)]
  else (List.range ((r.last - r.first) / r.stride + 1)).map fun i =>
    (r.first + i * r.stride, r.first + i * r.stride)

namespace Spans

-- What a range holds of characters below and above the surrogates.
def clip (r : Nat × Nat) : Spans :=
  [(r.1, min r.2 0xd7ff), (max r.1 0xe000, min r.2 0x10ffff)].filter fun s => decide (s.1 ≤ s.2)

-- Joins the ranges that meet or overlap; they are given in ascending order.
def join : List (Nat × Nat) → Spans
  | [] => []
  | [r] => [r]
  | r :: s :: rest =>
    if s.1 ≤ r.2 + 1 then join ((r.1, max r.2 s.2) :: rest) else r :: join (s :: rest)
termination_by rs => rs.length

def ofRanges (rs : List (Nat × Nat)) : Spans :=
  join ((rs.flatMap clip).mergeSort fun r s => decide (r.1 ≤ s.1))

def ofRuns (rs : List Run) : Spans := ofRanges (rs.flatMap Run.ranges)

def union (a b : Spans) : Spans := ofRanges (a ++ b)

-- What lies between the spans, from `start` on.
def gaps (start : Nat) : Spans → List (Nat × Nat)
  | [] => [(start, 0x10ffff)]
  | r :: rest => if start < r.1 then (start, r.1 - 1) :: gaps (r.2 + 1) rest else gaps (r.2 + 1) rest

def compl (a : Spans) : Spans := (gaps 0 a).flatMap clip

def inter (a b : Spans) : Spans := compl (union (compl a) (compl b))

end Spans

end DocStore.Text
