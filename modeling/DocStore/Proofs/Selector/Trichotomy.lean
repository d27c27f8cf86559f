import DocStore.Proofs.Filter.Truth
import DocStore.Proofs.Selector.Integer
import DocStore.Proofs.Selector.Lookup

namespace DocStore

namespace Value

-- Whether values of this kind are put in order by what they hold.
def isOrdered : Value → Bool
  | .string _ => true
  | .boolean _ => true
  | .date _ => true
  | .objectId _ => true
  | v => v.isNumber

-- Whether the order has a reason for where it puts the two.
def Ranked (a b : Value) : Prop := (a.isOrdered = true ∧ b.isOrdered = true) ∨ a.same b = true

section

variable {a b : Value}

theorem isOrdered_of_isNumber (h : a.isNumber = true) : a.isOrdered = true := by
  cases a <;> first | rfl | cases h

theorem typeRank_of_isNumber (h : a.isNumber = true) : a.typeRank = 2 := by
  cases a <;> first | rfl | cases h

theorem comparable_iff : a.comparable b = true ↔ a.typeRank = b.typeRank := by
  constructor
  · intro h
    rw [comparable, Bool.or_eq_true, Bool.and_eq_true, beq_iff_eq] at h
    rcases h with ⟨ha, hb⟩ | h
    · rw [typeRank_of_isNumber ha, typeRank_of_isNumber hb]
    · exact h
  · intro h
    simp [comparable, h]

-- Kinds that are not sorted by what they hold are all level within their rank.
theorem order_eq_of_not_isOrdered (harray : a.array? = none) (hrank : a.typeRank = b.typeRank)
    (h : ¬ (a.isOrdered = true ∧ b.isOrdered = true)) : a.order b = .eq := by
  cases a <;> cases b <;> try cases hrank
  case array.array => cases harray
  all_goals first | rfl | exact absurd ⟨rfl, rfl⟩ h

theorem same_iff_of_isOrdered (ha : a.isOrdered = true) (hnumber : a.isNumber = false)
    (hb : b.isOrdered = true) (hrank : a.typeRank = b.typeRank) :
    a.order b = .eq ↔ a.same b = true := by
  cases a <;> cases b <;> try cases hrank
  case string.string s t =>
    have htext : compareText s t = compare s t := rfl
    simp [order, htext, same]
  case boolean.boolean p q => cases p <;> cases q <;> decide
  case date.date s t =>
    rw [order, compare_eq_iff_eq, same, beq_iff_eq]
    exact Int64.toInt_inj
  case objectId.objectId x y =>
    rw [order, compare_eq_iff_eq, same, decide_eq_true_eq, ← BitVec.toNat_eq]
    exact ⟨fun h => by cases x; cases y; cases h; rfl, fun h => by rw [h]⟩
  all_goals contradiction

end

end Value

namespace Selector

variable {a b : Value}

-- The two notions of being equal meet exactly where the order has a reason.
theorem equalValues_eq_order_iff (harray : a.array? = none) (hrank : a.typeRank = b.typeRank) :
    equalValues a b = (a.order b == .eq) ↔ a.Ranked b := by
  by_cases hnumber : a.isNumber = true
  · have hb : b.isNumber = true := by
      rw [Value.typeRank_of_isNumber hnumber] at hrank
      cases b <;> first | rfl | cases hrank
    have hranked : a.Ranked b :=
      Or.inl ⟨Value.isOrdered_of_isNumber hnumber, Value.isOrdered_of_isNumber hb⟩
    simp [equalValues, hnumber, hb, hranked]
  · have hvalues : equalValues a b = a.same b := by simp [equalValues, hnumber]
    rw [Bool.not_eq_true] at hnumber
    rw [hvalues]
    by_cases hordered : a.isOrdered = true ∧ b.isOrdered = true
    · have hsame := Value.same_iff_of_isOrdered hordered.1 hnumber hordered.2 hrank
      simp only [Value.Ranked, hordered, and_self, true_or, iff_true]
      rw [Bool.eq_iff_iff, beq_iff_eq]
      exact hsame.symm
    · have hlevel := Value.order_eq_of_not_isOrdered harray hrank hordered
      simp [Value.Ranked, hordered, hlevel]

-- Values that cannot be compared are not equal either.
theorem comparable_of_equalValues (h : equalValues a b = true) : a.comparable b = true := by
  rcases equalValues_iff.mp h with ⟨ha, hb, _⟩ | ⟨_, _, hsame⟩
  · rw [Value.comparable, ha, hb]
    rfl
  · refine Value.comparable_iff.mpr ?_
    rcases Value.same_cases hsame with rfl | ⟨x, y, rfl, rfl⟩ | ⟨s, t, rfl, rfl, _⟩ | ⟨s, t, rfl, rfl, _⟩ |
      ⟨source, s, t, rfl, rfl, _⟩ <;> rfl

-- What a query document with one operator tells of a document.
def asks (d : Document) (path op : String) (arg : Value) : Except StoreError Bool :=
  holds d [(path, .document [(op, arg)])]

-- The operator that asks for an ordering.
def operatorFor : Ordering → String
  | .lt => "$lt"
  | .eq => "$eq"
  | .gt => "$gt"

-- Whether exactly one of less, equal and greater holds of the value at the path, and the other
-- two operators are made of these.
structure Trichotomy (d : Document) (path : String) (arg : Value) : Prop where
  one : ∃ op ∈ ["$lt", "$eq", "$gt"], ∀ other ∈ ["$lt", "$eq", "$gt"],
    asks d path other arg = .ok (other == op)
  atLeast : asks d path "$gte" arg = .ok true ↔
    asks d path "$gt" arg = .ok true ∨ asks d path "$eq" arg = .ok true
  atMost : asks d path "$lte" arg = .ok true ↔
    asks d path "$lt" arg = .ok true ∨ asks d path "$eq" arg = .ok true

theorem equals_of_not_array (harray : a.array? = none) (arg : Value) :
    equals (some a) arg = equalValues a arg := by
  cases a <;> first | rfl | cases harray

theorem compares_of_not_array (harray : a.array? = none) (wanted : Ordering → Bool) (arg : Value) :
    compares wanted (some a) arg = (a.comparable arg && wanted (a.order arg)) := by
  cases a <;> first | rfl | cases harray

section

variable {d : Document} {path : String} (hpath : Text.startsWithChar '$' path = false)
  (hd : d.getPath? path = some a) (harray : a.array? = none)

include hpath hd harray

theorem asks_eq (arg : Value) : asks d path "$eq" arg = .ok (equalValues a arg) := by
  rw [asks, holds_of_path hpath, hd, condition_eq, equals_of_not_array harray]

theorem asks_order {op : String} {wanted : Ordering → Bool} (hop : op ≠ "$eq")
    (hentry : (op, wanted) ∈ orderOperators) (arg : Value) :
    asks d path op arg = .ok (a.comparable arg && wanted (a.order arg)) := by
  rw [asks, holds_of_path hpath, hd, ← compares_of_not_array harray]
  simp only [orderOperators, List.mem_cons, List.not_mem_nil, or_false, Prod.mk.injEq, hop, false_and,
    false_or] at hentry
  have hoperator : Document.isOperator [(op, arg)] = true := by
    rcases hentry with ⟨rfl, _⟩ | ⟨rfl, _⟩ | ⟨rfl, _⟩ | ⟨rfl, _⟩ <;> rfl
  rw [condition, if_pos hoperator, operators_singleton]
  rcases hentry with ⟨rfl, rfl⟩ | ⟨rfl, rfl⟩ | ⟨rfl, rfl⟩ | ⟨rfl, rfl⟩ <;> cases arg <;> rfl

theorem asks_of_comparable (hcomparable : a.comparable b = true) {op : String} {wanted : Ordering → Bool}
    (hop : op ≠ "$eq") (hentry : (op, wanted) ∈ orderOperators) :
    asks d path op b = .ok (wanted (a.order b)) := by
  rw [asks_order hpath hd harray hop hentry, hcomparable, Bool.true_and]

-- What the operators tell, by the order and by whether the two are equal.
theorem trichotomy_iff_of_rank (hrank : a.typeRank = b.typeRank) :
    Trichotomy d path b ↔ a.Ranked b := by
  have hcomparable : a.comparable b = true := Value.comparable_iff.mpr hrank
  have hequal := asks_eq hpath hd harray b
  have horder : ∀ op wanted, op ≠ "$eq" → (op, wanted) ∈ orderOperators →
      asks d path op b = .ok (wanted (a.order b)) := fun _ _ => asks_of_comparable hpath hd harray hcomparable
  have hless := horder "$lt" (· == .lt) (by decide) (by simp [orderOperators])
  have hgreater := horder "$gt" (· == .gt) (by decide) (by simp [orderOperators])
  have hatLeast := horder "$gte" (· != .lt) (by decide) (by simp [orderOperators])
  have hatMost := horder "$lte" (· != .gt) (by decide) (by simp [orderOperators])
  rw [← equalValues_eq_order_iff harray hrank]
  constructor
  · intro h
    obtain ⟨op, hop, hone⟩ := h.one
    simp only [List.mem_cons, List.not_mem_nil, or_false, forall_eq_or_imp, forall_eq, hless, hequal,
      hgreater, Except.ok.injEq] at hop hone
    revert hone
    rcases hop with rfl | rfl | rfl <;> cases a.order b <;> cases equalValues a b <;> decide
  · intro h
    rw [h] at hequal
    refine ⟨?_, ?_, ?_⟩
    · refine ⟨operatorFor (a.order b), ?_, ?_⟩
      · cases a.order b <;> decide
      · simp only [List.mem_cons, List.not_mem_nil, or_false, forall_eq_or_imp, forall_eq, hless, hequal,
          hgreater, Except.ok.injEq]
        cases a.order b <;> decide
    · rw [hatLeast, hgreater, hequal]
      cases a.order b <;> simp
    · rw [hatMost, hless, hequal]
      cases a.order b <;> simp

-- A range from a value to itself asks for what is level with the value.
theorem answers_within_self_iff {policy : CompositePolicy} {arg : Value} {r : Except StoreError Bool} :
    (Filter.field path (.within arg arg)).Answers policy d r ↔
      .ok (a.comparable arg && a.order arg == .eq) = r := by
  have hfirst : ("$gte", (· != .lt)) ∈ orderOperators := by simp [orderOperators]
  have hlast : ("$lte", (· != .gt)) ∈ orderOperators := by simp [orderOperators]
  have hlow := asks_order hpath hd harray (by decide) hfirst arg
  have hhigh := asks_order hpath hd harray (by decide) hlast arg
  have hholds : holds d [("$and", .array [.document (Filter.operatorOn path "$gte" arg),
      .document (Filter.operatorOn path "$lte" arg)])] =
      .ok (a.comparable arg && a.order arg == .eq) := by
    rw [holds_and rfl, Filter.operatorOn, Filter.operatorOn,
      every_cons _ hlow, every_cons _ hhigh]
    cases a.comparable arg <;> cases a.order arg <;> rfl
  simp [Filter.Answers, Filter.compile, Filter.compileCondition, hholds]

theorem answers_equal_plain_iff {policy : CompositePolicy} {arg : Value} {r : Except StoreError Bool}
    (hplain : arg.isPlain = true) :
    (Filter.field path (.equal arg)).Answers policy d r ↔ .ok (equalValues a arg) = r := by
  rw [Filter.answers_equal_iff hpath, condition_of_isData (Value.isData_of_isPlain hplain), hd,
    equals_of_not_array harray]

theorem range_agrees_iff (policy : CompositePolicy) (hplain : b.isPlain = true) :
    (∀ r, (Filter.field path (.within b b)).Answers policy d r ↔
      (Filter.field path (.equal b)).Answers policy d r) ↔ (a.comparable b = true → a.Ranked b) := by
  have hbits : (∀ r, (Filter.field path (.within b b)).Answers policy d r ↔
      (Filter.field path (.equal b)).Answers policy d r) ↔
      equalValues a b = (a.comparable b && a.order b == .eq) := by
    simp only [answers_within_self_iff hpath hd harray, answers_equal_plain_iff hpath hd harray hplain]
    refine ⟨fun h => Except.ok.inj ((h _).mp rfl), fun h r => by rw [h]⟩
  rw [hbits]
  by_cases hcomparable : a.comparable b = true
  · simp only [hcomparable, Bool.true_and, forall_const]
    exact equalValues_eq_order_iff harray (Value.comparable_iff.mp hcomparable)
  · have hunequal : equalValues a b ≠ true := fun h => hcomparable (comparable_of_equalValues h)
    simp_all

-- Values that the order has no reason for are at least and at most each other, and neither
-- less nor equal nor greater.
theorem asks_of_not_ranked (hcomparable : a.comparable b = true) (h : ¬ a.Ranked b) :
    ∀ op ∈ ["$lt", "$eq", "$gt", "$gte", "$lte"], asks d path op b = .ok (op == "$gte" || op == "$lte") := by
  have hrank := Value.comparable_iff.mp hcomparable
  have hlevel : a.order b = .eq :=
    Value.order_eq_of_not_isOrdered harray hrank fun hordered => h (Or.inl hordered)
  have hunequal : equalValues a b = false := by
    have hdiffer := mt (equalValues_eq_order_iff harray hrank).mp h
    rw [hlevel] at hdiffer
    simpa using hdiffer
  have horder : ∀ op wanted, op ≠ "$eq" → (op, wanted) ∈ orderOperators →
      asks d path op b = .ok (wanted .eq) := fun _ _ hop hentry =>
    hlevel ▸ asks_of_comparable hpath hd harray hcomparable hop hentry
  simp only [List.mem_cons, List.not_mem_nil, or_false, forall_eq_or_imp, forall_eq]
  refine ⟨horder "$lt" (· == .lt) ?_ ?_, ?_, horder "$gt" (· == .gt) ?_ ?_,
    horder "$gte" (· != .lt) ?_ ?_, horder "$lte" (· != .gt) ?_ ?_⟩
  case refine_3 => rw [asks_eq hpath hd harray, hunequal]; rfl
  all_goals simp [orderOperators]

-- Of a value that is no array and an argument that it can be compared with, exactly one of less,
-- equal and greater holds if both are of kinds that are sorted by what they hold or if they are the
-- same; else none does. A range from an argument to itself selects as the equality does under
-- the same condition, or if the two cannot be compared.
theorem trichotomy_iff_ranked :
    (a.comparable b = true → (Trichotomy d path b ↔ a.Ranked b) ∧
      (¬ a.Ranked b → ∀ op ∈ ["$lt", "$eq", "$gt", "$gte", "$lte"],
        asks d path op b = .ok (op == "$gte" || op == "$lte"))) ∧
    ∀ policy, b.isPlain = true →
      ((∀ r, (Filter.field path (.within b b)).Answers policy d r ↔
        (Filter.field path (.equal b)).Answers policy d r) ↔ (a.comparable b = true → a.Ranked b)) := by
  refine ⟨fun hcomparable => ⟨?_, ?_⟩, fun policy hplain => ?_⟩
  · exact trichotomy_iff_of_rank hpath hd harray (Value.comparable_iff.mp hcomparable)
  · exact asks_of_not_ranked hpath hd harray hcomparable
  · exact range_agrees_iff hpath hd harray policy hplain

end

-- Dates are sorted by what they hold. A date comes before, is or comes after another one, and of
-- two timestamps neither is so.
theorem trichotomy_iff_ranked_times :
    Trichotomy [("at", .date 5)] "at" (.date 7) ∧
      ∀ op ∈ ["$lt", "$eq", "$gt"], asks [("at", .timestamp 1 1)] "at" op (.timestamp 2 1) = .ok false := by
  obtain ⟨hdates, _⟩ := @trichotomy_iff_ranked (.date 5) (.date 7) [("at", .date 5)] "at" rfl rfl rfl
  obtain ⟨hstamps, _⟩ := @trichotomy_iff_ranked (.timestamp 1 1) (.timestamp 2 1)
    [("at", .timestamp 1 1)] "at" rfl rfl rfl
  have hranked : ¬ (Value.timestamp 1 1).Ranked (.timestamp 2 1) := by
    rintro (⟨hordered, _⟩ | hsame)
    · exact Bool.false_ne_true hordered
    · exact Bool.false_ne_true hsame
  refine ⟨(hdates rfl).1.mpr (Or.inl ⟨rfl, rfl⟩), fun op hop => ?_⟩
  have hanswer := (hstamps rfl).2 hranked
  simp only [List.mem_cons, List.not_mem_nil, or_false] at hop
  rcases hop with rfl | rfl | rfl <;> exact hanswer _ (by simp)

-- A range from one timestamp to itself finds another one, and the equality does not.
theorem timestamps_not_trichotomous :
    (Value.timestamp 1 1).comparable (.timestamp 2 1) = true ∧
      ¬ Trichotomy [("at", .timestamp 1 1)] "at" (.timestamp 2 1) ∧
      (Filter.field "at" (.within (.timestamp 2 1) (.timestamp 2 1))).Answers .strict
        [("at", .timestamp 1 1)] (.ok true) ∧
      (Filter.field "at" (.equal (.timestamp 2 1))).Answers .strict [("at", .timestamp 1 1)] (.ok false) := by
  refine ⟨rfl, fun h => ?_, ⟨_, rfl, rfl⟩, ⟨_, rfl, rfl⟩⟩
  obtain ⟨op, hop, hone⟩ := h.one
  -- one of the three would hold, and none of them does
  have hself := hone op hop
  rw [beq_self_eq_true] at hself
  simp only [List.mem_cons, List.not_mem_nil, or_false] at hop
  rcases hop with rfl | rfl | rfl <;>
    exact absurd (show Except.ok false = Except.ok true from hself) (by simp)

end Selector

end DocStore
