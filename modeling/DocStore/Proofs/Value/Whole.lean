import DocStore.Value

namespace DocStore.Value

variable {n : Int}

theorem fits64_iff : Integer.fits64 n = true ↔ -(Integer.max64 : Int) - 1 ≤ n ∧ n ≤ Integer.max64 :=
  decide_eq_true_iff

theorem fits64_of_fits32 (h : Integer.fits32 n = true) : Integer.fits64 n = true := by
  have hbounds : -2 ^ 31 ≤ n ∧ n ≤ 2 ^ 31 - 1 := of_decide_eq_true h
  have hwider : -2 ^ 63 ≤ n ∧ n ≤ 2 ^ 63 - 1 := by omega
  exact decide_eq_true hwider

theorem fits32_toInt (n : Int32) : Integer.fits32 n.toInt = true := by
  have hlow := Int32.le_toInt n
  have hhigh := Int32.toInt_lt n
  have hbounds : -2 ^ 31 ≤ n.toInt ∧ n.toInt ≤ 2 ^ 31 - 1 := by omega
  exact decide_eq_true hbounds

theorem fits64_toInt (n : Int64) : Integer.fits64 n.toInt = true := by
  have hlow := Int64.le_toInt n
  have hhigh := Int64.toInt_lt n
  have hbounds : -2 ^ 63 ≤ n.toInt ∧ n.toInt ≤ 2 ^ 63 - 1 := by omega
  exact decide_eq_true hbounds

theorem toWhole?_int32 (h : Integer.fits32 n = true) :
    (int32 (Int32.ofInt n)).toWhole? = some n := by
  have hbounds : -2 ^ 31 ≤ n ∧ n ≤ 2 ^ 31 - 1 := of_decide_eq_true h
  have hread : (Int32.ofInt n).toInt = n := Int32.toInt_ofInt_of_le hbounds.1 (by omega)
  simp [toWhole?, hread]

theorem toWhole?_int64 (h : Integer.fits64 n = true) :
    (int64 (Int64.ofInt n)).toWhole? = some n := by
  have hbounds : -2 ^ 63 ≤ n ∧ n ≤ 2 ^ 63 - 1 := of_decide_eq_true h
  have hread : (Int64.ofInt n).toInt = n := Int64.toInt_ofInt_of_le hbounds.1 (by omega)
  simp [toWhole?, hread]

-- The narrower type holds the number as well.
theorem toWhole?_ofInt (h : Integer.fits64 n = true) : (ofInt n).toWhole? = some n := by
  unfold ofInt
  by_cases hfits : Integer.fits32 n = true
  · rw [if_pos hfits]
    exact toWhole?_int32 hfits
  · rw [if_neg hfits]
    exact toWhole?_int64 h

end DocStore.Value
