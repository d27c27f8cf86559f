import DocStore.Text.Case
import DocStore.Text.Spans

namespace DocStore.Text

-- The run of the places that members of the run move to, on the way back.
def ShiftedRun.turned (r : ShiftedRun) : ShiftedRun := ⟨r.move r.first, r.move r.last, r.stride, -r.shift⟩

-- Where the members of the run go that lie in the range.
def ShiftedRun.image (r : ShiftedRun) (range : Nat × Nat) : List (Nat × Nat) :=
  let low := max r.first range.1
  let high := min r.last range.2
  if high < low then []
  else if r.stride = 1 then [(r.move low, r.move high)]
  else
    let start := low + (r.stride - (low - r.first) % r.stride) % r.stride
    (List.range ((high + r.stride - start) / r.stride)).map fun i =>
      (r.move (start + i * r.stride), r.move (start + i * r.stride))

-- The steps from a character to another that is the same when case is ignored.
def caseSteps : List ShiftedRun :=
  let singles : List ShiftedRun := foldExceptions.map fun (n, m) => ⟨n, n, 1, (m : Int) - n⟩
  let steps := ⟨0x41, 0x5a, 1, 32⟩ :: lowerShifts ++ singles
  steps ++ steps.map ShiftedRun.turned

namespace Spans

-- What one step leads to from the spans.
def image (a : Spans) (r : ShiftedRun) : List (Nat × Nat) :=
  ((a.dropWhile fun s => decide (s.2 < r.first)).takeWhile fun s => decide (s.1 ≤ r.last)).flatMap r.image

-- Takes steps until nothing new is met; no character is more than `fuel` steps from another.
def anyCaseWithin : Nat → Spans → Spans
  | 0, a => a
  | fuel + 1, a =>
    let more := union a (caseSteps.flatMap a.image)
    if more = a then a else anyCaseWithin fuel more

def anyCase (a : Spans) : Spans := anyCaseWithin 4 a

end Spans

end DocStore.Text
