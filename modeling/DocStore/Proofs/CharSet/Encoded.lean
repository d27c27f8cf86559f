import DocStore.CharSet.Encoded
import Mathlib.Algebra.Order.BigOperators.Group.List
import Mathlib.Algebra.Order.Group.Nat
import Mathlib.Algebra.Ring.Nat

namespace DocStore.CharSet

-- The number of steps that sequences take one by one.
def steps (seqs : List (List ByteRange)) : Nat := (seqs.map List.length).sum

theorem steps_byFirst_le (seqs : List (List ByteRange)) :
    ((byFirst seqs).map fun group => steps group.2 + 1).sum ≤ steps seqs := by
  induction seqs with
  | nil => exact Nat.le_refl 0
  | cons s rest ih =>
      cases s with
      | nil => simpa [byFirst, steps] using ih
      | cons r tail =>
          unfold byFirst
          split
          · simp [steps]
          · next first tails more hrest =>
              rw [hrest] at ih
              simp only [steps, List.map_cons, List.sum_cons, List.length_cons] at ih ⊢
              split <;> simp only [List.map_cons, List.sum_cons, List.map_nil, List.sum_nil] <;> omega

def weightOf (entry : List (ByteRange × Nat) × Nat) : Nat := stateBytes + wayBytes * entry.1.length

-- What states take together.
def weight (states : States) : Nat := (states.toList.map weightOf).sum

theorem fold_bytes (states : States) (start : Nat) :
    states.fold (fun sum ways _ => sum + stateBytes + wayBytes * ways.length) start = start + weight states := by
  rw [Std.HashMap.fold_eq_foldl_toList, weight]
  induction states.toList generalizing start with
  | nil => rfl
  | cons entry rest ih =>
      rw [List.foldl_cons, ih, List.map_cons, List.sum_cons, weightOf]
      omega

-- A state that is added counts at most as a new one.
theorem weight_insert_le (states : States) (ways : List (ByteRange × Nat)) (n : Nat) :
    weight (states.insert ways n) ≤ weight states + weightOf (ways, n) := by
  have hperm := (Std.HashMap.toList_insert_perm (m := states) (k := ways) (v := n)).map weightOf
  have hothers := ((List.filter_sublist (l := states.toList)
    (p := fun entry => decide ¬(ways == entry.1) = true)).map weightOf).sum_le_sum fun _ _ => Nat.zero_le _
  rw [weight, hperm.sum_eq, List.map_cons, List.sum_cons, weight, Nat.add_comm]
  exact Nat.add_le_add_right hothers _

-- The way out of a state for one group of sequences, and the states that it leads to.
def readGroup (fuel : Nat) (made : List (ByteRange × Nat) × States)
    (group : ByteRange × List (List ByteRange)) : List (ByteRange × Nat) × States :=
  let after := reader fuel group.2 made.2
  ((group.1, after.1) :: made.1, after.2)

theorem reader_succ (fuel : Nat) (seqs : List (List ByteRange)) (states : States) :
    reader (fuel + 1) seqs states =
      let made := (byFirst seqs).foldl (readGroup fuel) ([], states)
      if made.1.isEmpty then (0, made.2)
      else
        match made.2[made.1]? with
        | some n => (n, made.2)
        | Option.none => (made.2.size + 1, made.2.insert made.1 (made.2.size + 1)) := rfl

section

variable {fuel : Nat} (hreader : ∀ seqs states,
  weight (reader fuel seqs states).2 ≤ weight states + (stateBytes + wayBytes) * steps seqs)

include hreader

theorem foldl_readGroup (groups : List (ByteRange × List (List ByteRange)))
    (made : List (ByteRange × Nat) × States) :
    (groups.foldl (readGroup fuel) made).1.length = made.1.length + groups.length ∧
      weight (groups.foldl (readGroup fuel) made).2 ≤
        weight made.2 + (stateBytes + wayBytes) * (groups.map fun group => steps group.2).sum := by
  induction groups generalizing made with
  | nil => exact ⟨rfl, Nat.le_add_right _ _⟩
  | cons group rest ih =>
      obtain ⟨hlength, hweight⟩ := ih (readGroup fuel made group)
      have hfirst : weight (readGroup fuel made group).2 ≤ _ := hreader group.2 made.2
      have hways : (readGroup fuel made group).1.length = made.1.length + 1 := rfl
      rw [List.foldl_cons, List.length_cons, List.map_cons, List.sum_cons, Nat.mul_add]
      exact ⟨by omega, by omega⟩

end

-- A state has a way out for each of its groups, and the groups have the other steps.
theorem weight_reader_le (fuel : Nat) (seqs : List (List ByteRange)) (states : States) :
    weight (reader fuel seqs states).2 ≤ weight states + (stateBytes + wayBytes) * steps seqs := by
  induction fuel generalizing seqs states with
  | zero => exact Nat.le_add_right _ _
  | succ fuel ih =>
      obtain ⟨hlength, hweight⟩ := foldl_readGroup ih (byFirst seqs) ([], states)
      have hgroups := steps_byFirst_le seqs
      have hsum : ((byFirst seqs).map fun group => steps group.2 + 1).sum =
          ((byFirst seqs).map fun group => steps group.2).sum + (byFirst seqs).length := by
        induction byFirst seqs with
        | nil => rfl
        | cons group rest ihrest =>
            simp only [List.map_cons, List.sum_cons, List.length_cons, ihrest]
            omega
      simp only [reader_succ]
      generalize (byFirst seqs).foldl (readGroup fuel) ([], states) = made at hlength hweight ⊢
      simp only [stateBytes, wayBytes, List.length_nil, Nat.zero_add] at hlength hweight ⊢
      split
      · dsimp only
        omega
      · next hways =>
          have hsome : made.1.length ≠ 0 := by simpa using hways
          split
          · dsimp only
            omega
          · have hinsert := weight_insert_le made.2 made.1 (made.2.size + 1)
            simp only [weightOf, stateBytes, wayBytes] at hinsert
            dsimp only
            omega

theorem forwardBytes_le {set : Text.Spans} (h : isAsciiOnly set = false) :
    forwardBytes set ≤ stateBytes + (stateBytes + wayBytes) * steps (sequences set) := by
  have hreader := weight_reader_le 4 (sequences set) ∅
  have hempty : weight ∅ = 0 := by simp [weight]
  rw [forwardBytes, h]
  simp only [Bool.false_eq_true, if_false, fold_bytes]
  omega

end DocStore.CharSet
