import DocStore.Proofs.Number.Rounding
import DocStore.Proofs.Selector.Logical
import DocStore.Proofs.Value.Order
import DocStore.Proofs.Value.Whole

namespace DocStore

namespace Value

-- The whole number that a value of an integer type is.
def integer? : Value → Option Int
  | int32 n => some n.toInt
  | int64 n => some n.toInt
  | _ => none

section

variable {a b : Value} {m n : Int}

theorem toDouble?_of_integer (h : a.integer? = some m) : a.toDouble? = some (Double.ofInt m) := by
  cases a <;> simp_all [integer?, toDouble?]

theorem isNumber_of_integer (h : a.integer? = some m) : a.isNumber = true := by
  cases a <;> first | rfl | cases h

theorem fits64_integer (h : a.integer? = some m) : Integer.fits64 m = true := by
  cases a with
  | int32 k =>
      cases h
      exact fits64_of_fits32 (fits32_toInt k)
  | int64 k =>
      cases h
      exact fits64_toInt k
  | _ => cases h

theorem natAbs_integer_le (h : a.integer? = some m) : m.natAbs ≤ 2 ^ 63 := by
  have hbounds : -2 ^ 63 ≤ m ∧ m ≤ 2 ^ 63 - 1 := of_decide_eq_true (fits64_integer h)
  omega

variable (ha : a.integer? = some m) (hb : b.integer? = some n)

include ha hb

theorem order_integers : a.order b = if Double.ofInt m = Double.ofInt n then .eq else compare m n := by
  rw [order_of_numbers (isNumber_of_integer ha) (isNumber_of_integer hb), compareNumbers,
    toDouble?_of_integer ha, toDouble?_of_integer hb]
  exact Double.compare_rank_ofInt (natAbs_integer_le ha) (natAbs_integer_le hb)

-- The order is the right one wherever rounding leaves two different integers
-- different.
theorem order_integers_exact_iff :
    a.order b = compare m n ↔ m = n ∨ Double.ofInt m ≠ Double.ofInt n := by
  rw [order_integers ha hb]
  by_cases htie : Double.ofInt m = Double.ofInt n
  · simp [htie, eq_comm (a := Ordering.eq)]
  · simp [htie]

end

end Value

namespace Selector

-- What each operator that compares wants of the order between a value and its argument.
def orderOperators : List (String × (Ordering → Bool)) :=
  [("$eq", (· == .eq)), ("$gt", (· == .gt)), ("$gte", (· != .lt)), ("$lt", (· == .lt)),
    ("$lte", (· != .gt))]

-- Whether all query documents that hold the argument against the value at the
-- path answer as if `o` were the order between the two.
structure AnswersBy (d : Document) (path : String) (arg : Value) (o : Ordering) : Prop where
  plain : holds d [(path, arg)] = .ok (o == .eq)
  operator : ∀ entry ∈ orderOperators,
    holds d [(path, .document [(entry.1, arg)])] = .ok (entry.2 o)

variable {d : Document} {path : String} {a b : Value} {m n : Int}

-- The answers show the order.
theorem AnswersBy.order_eq {o o' : Ordering} (h : AnswersBy d path b o) (h' : AnswersBy d path b o') :
    o = o' := by
  have hequal := Except.ok.inj (h.plain.symm.trans h'.plain)
  have hless := Except.ok.inj ((h.operator ("$lt", (· == .lt)) (by simp [orderOperators])).symm.trans
    (h'.operator ("$lt", (· == .lt)) (by simp [orderOperators])))
  revert hequal hless
  cases o <;> cases o' <;> decide

section

variable (ha : a.integer? = some m) (hb : b.integer? = some n)

include ha hb

theorem equals_integers : equals (some a) b = (a.order b == .eq) := by
  have hvalues : equals (some a) b = equalValues a b := by
    cases a <;> first | rfl | cases ha
  rw [hvalues, equalValues, Value.isNumber_of_integer ha, Value.isNumber_of_integer hb]
  rfl

theorem compares_integers (wanted : Ordering → Bool) :
    compares wanted (some a) b = wanted (a.order b) := by
  have hcomparable : a.comparable b = true := by
    rw [Value.comparable, Value.isNumber_of_integer ha, Value.isNumber_of_integer hb]
    rfl
  have hpasses : compares wanted (some a) b = (a.comparable b && wanted (a.order b)) := by
    cases a <;> first | rfl | cases ha
  rw [hpasses, hcomparable, Bool.true_and]

theorem condition_of_operator {entry : String × (Ordering → Bool)} (hentry : entry ∈ orderOperators) :
    condition (some a) (.document [(entry.1, b)]) = .ok (entry.2 (a.order b)) := by
  have hplain : ∀ op, operator (some a) (optionsOf [(op, b)]) op b =
      plainOperator (some a) (optionsOf [(op, b)]) op b := by
    intro op
    cases b <;> first | rfl | cases hb
  simp only [orderOperators, List.mem_cons, List.not_mem_nil, or_false] at hentry
  rcases hentry with rfl | hentry
  · exact (condition_eq (some a) b).trans (congrArg Except.ok (equals_integers ha hb))
  · have hop : Document.isOperator [(entry.1, b)] = true := by
      rcases hentry with rfl | rfl | rfl | rfl <;> rfl
    simp only [condition, hop, if_true, operators_singleton, hplain]
    rcases hentry with rfl | rfl | rfl | rfl <;>
      exact congrArg Except.ok (compares_integers ha hb _)

theorem answersBy_order (hpath : Text.startsWithChar '$' path = false) (hd : d.getPath? path = some a) :
    AnswersBy d path b (a.order b) where
  plain := by
    have hliteral : condition (some a) b = .ok (equals (some a) b) := by
      cases b <;> first | rfl | cases hb
    rw [holds_of_path hpath, hd, hliteral, equals_integers ha hb]
  operator entry hentry := by
    rw [holds_of_path hpath, hd, condition_of_operator ha hb hentry]

end

-- Two integers compare as they are, and filters select by their order, exactly
-- where they are the same or are not rounded to one; else they count as equal.
-- Different integers that do lie at least 2 ^ 53 from zero, within 2 ^ 10 of each other.
theorem integers_compare (ha : a.integer? = some m) (hb : b.integer? = some n) :
    (a.order b = compare m n ↔ m = n ∨ Double.ofInt m ≠ Double.ofInt n) ∧
    (Double.ofInt m = Double.ofInt n → a.order b = .eq) ∧
    (m ≠ n → Double.ofInt m = Double.ofInt n →
      2 ^ 53 ≤ m.natAbs ∧ 2 ^ 53 ≤ n.natAbs ∧ (m - n).natAbs ≤ 2 ^ 10) ∧
    ∀ d path, Text.startsWithChar '$' path = false → Document.getPath? d path = some a →
      AnswersBy d path b (a.order b) ∧
      (AnswersBy d path b (compare m n) ↔ m = n ∨ Double.ofInt m ≠ Double.ofInt n) := by
  have hexact := Value.order_integers_exact_iff ha hb
  refine ⟨hexact, fun htie => ?_, fun hne htie => ?_, fun d path hpath hd => ?_⟩
  · rw [Value.order_integers ha hb, if_pos htie]
  · exact Double.near_of_ofInt_eq (Value.natAbs_integer_le ha) (Value.natAbs_integer_le hb) hne htie
  · have hanswers := answersBy_order ha hb hpath hd
    refine ⟨hanswers, fun h => hexact.mp (hanswers.order_eq h), fun h => ?_⟩
    rwa [← hexact.mpr h]

-- The integer next to the last one from which on rounding merges integers.
def mergedInteger : Value := .int64 9007199254740993

-- Small integers of two types stand in their order; 2 ^ 53 and the next one are
-- neighbours that count as equal.
theorem integers_compare_neighbours :
    (Value.int32 41).order (.int64 42) = .lt ∧
      (Value.int64 9007199254740992).order mergedInteger = .eq ∧
      ¬ AnswersBy [("v", .int64 9007199254740992)] "v" mergedInteger .lt := by
  obtain ⟨hsmall, _⟩ := @integers_compare (.int32 41) (.int64 42) 41 42 rfl rfl
  obtain ⟨_, hequal, _, hselect⟩ :=
    @integers_compare (.int64 9007199254740992) mergedInteger 9007199254740992 9007199254740993 rfl rfl
  have htie : Double.ofInt 9007199254740992 = Double.ofInt 9007199254740993 := by decide +kernel
  refine ⟨hsmall.mpr (Or.inr (by decide +kernel)), hequal htie, fun h => ?_⟩
  have hexact := (hselect [("v", .int64 9007199254740992)] "v" rfl rfl).2.mp h
  exact hexact.elim (by decide) (fun hapart => hapart htie)

-- Neither the comparison nor an equality filter tells the two neighbours apart.
theorem integers_not_exact :
    ¬ (∀ m n : Int64, (Value.int64 m).order (.int64 n) = compare m.toInt n.toInt) ∧
      ¬ ∀ m n : Int64, holds [("v", .int64 m)] [("v", .int64 n)] = .ok (m == n) := by
  constructor
  · intro h
    exact absurd (h 9007199254740992 9007199254740993) (by decide +kernel)
  · intro h
    have hself : holds [("v", .int64 9007199254740992)] [("v", mergedInteger)] = .ok true := by rfl
    have hanswer := hself.symm.trans (h 9007199254740992 9007199254740993)
    exact absurd (Except.ok.inj hanswer) (by decide)

end Selector

end DocStore
