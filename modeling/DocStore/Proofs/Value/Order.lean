import DocStore.Proofs.Value.Equality
import DocStore.Value.Order
import Mathlib.Data.String.Basic
import Mathlib.Order.Compare

namespace DocStore

-- Whether `ac` is how two things compare when `ab` and `bc` are how they compare
-- with a third one between them.
def Follows (ab bc ac : Ordering) : Prop := ab ≠ .gt → bc ≠ .gt → ac = ab.then bc

namespace Follows

variable {ab bc ac ab' bc' ac' : Ordering}

theorem ne_gt (h : Follows ab bc ac) (hab : ab ≠ .gt) (hbc : bc ≠ .gt) : ac ≠ .gt := by
  rw [h hab hbc]
  cases ab with
  | lt => exact fun h => nomatch h
  | eq => exact hbc
  | gt => exact absurd rfl hab

theorem comm (h : Follows ab bc ac) : Follows bc ab ac := by
  intro hbc hab
  rw [h hab hbc]
  cases ab <;> cases bc <;> first | rfl | contradiction

-- Comparing by one thing first and by another one next.
theorem lex (h : Follows ab bc ac) (h' : ab = .eq → bc = .eq → Follows ab' bc' ac') :
    Follows (ab.then ab') (bc.then bc') (ac.then ac') := by
  intro hab hbc
  cases ab with
  | gt => exact absurd rfl hab
  | lt =>
      have hne : bc ≠ .gt := fun he => hbc (by rw [he]; rfl)
      rw [h (by decide) hne]
      rfl
  | eq =>
      cases bc with
      | gt => exact absurd rfl hbc
      | lt =>
          rw [h (by decide) (by decide)]
          cases ab' <;> first | rfl | exact absurd rfl hab
      | eq =>
          rw [h (by decide) (by decide)]
          exact h' rfl rfl hab hbc

theorem of_compare {α : Type} [LinearOrder α] (x y z : α) :
    Follows (compare x y) (compare y z) (compare x z) := by
  intro hxy hyz
  have hle : y ≤ z := compare_le_iff_le.mp hyz
  rcases lt_trichotomy x y with h | rfl | h
  · rw [compare_lt_iff_lt.mpr h, compare_lt_iff_lt.mpr (lt_of_lt_of_le h hle)]
    rfl
  · rw [compare_eq_iff_eq.mpr rfl]
    rfl
  · exact absurd (compare_gt_iff_gt.mpr h) hxy

end Follows

namespace Value

-- What values other than strings and arrays are sorted by among their kind.
def magnitude : Value → Int
  | boolean b => b.toNat
  | date millis => millis.toInt
  | objectId id => id.bits.toNat
  | v => if v.isNumber then (v.toDouble?.getD (Double.nan false)).rank else 0

def isSymbol : Value → Bool
  | symbol _ => true
  | _ => false

def textOr (v : Value) : String := v.string?.getD ""

mutual

-- Whether comparing the two comes to hold a string against a symbol.
def crosses : Value → Value → Bool
  | .string _, .symbol _ => true
  | .symbol _, .string _ => true
  | .array a, .array b => crossesItems a b
  | _, _ => false

def crossesItems : List Value → List Value → Bool
  | a :: as, b :: bs => crosses a b || (order a b == .eq && crossesItems as bs)
  | _, _ => false

end

section Kinds

variable {a b : Value}

theorem compare_natCast (m n : Nat) : compare (m : Int) (n : Int) = compare m n := by
  rcases Nat.lt_trichotomy m n with h | rfl | h
  · rw [compare_lt_iff_lt.mpr h, compare_lt_iff_lt.mpr (Int.ofNat_lt.mpr h)]
  · rw [compare_eq_iff_eq.mpr rfl, compare_eq_iff_eq.mpr rfl]
  · rw [compare_gt_iff_gt.mpr h, compare_gt_iff_gt.mpr (Int.ofNat_lt.mpr h)]

theorem order_of_rank_ne (h : a.typeRank ≠ b.typeRank) : a.order b = compare a.typeRank b.typeRank := by
  cases a <;> cases b <;> first | exact absurd rfl h | rfl

-- Values of one rank other than arrays are compared by numbers and by text, but
-- for a string and a symbol.
theorem order_of_rank_eq (h : a.typeRank = b.typeRank) (harray : a.array? = none)
    (hcross : a.crosses b = false) :
    a.order b = (compare a.magnitude b.magnitude).then (compare a.textOr b.textOr) := by
  cases a <;> cases b <;> try cases h
  case array.array => cases harray
  case string.symbol => cases hcross
  case symbol.string => cases hcross
  case string.string s t =>
    have htext : compareText s t = compare s t := rfl
    simp [order, magnitude, textOr, string?, isNumber, htext]
  case boolean.boolean => simp [order, magnitude, textOr, string?, compare_natCast]
  case objectId.objectId => simp [order, magnitude, textOr, string?, compare_natCast]
  all_goals simp [order, magnitude, textOr, string?, isNumber, compareNumbers, Double.totalCompare, typeRank,
    toDouble?]

theorem order_swap_of_rank_eq (h : a.typeRank = b.typeRank) (harray : a.array? = none) :
    b.order a = (a.order b).swap := by
  cases a <;> cases b <;> try cases h
  case array.array => cases harray
  case string.string => exact Std.OrientedOrd.eq_swap (α := String)
  case boolean.boolean => exact Std.OrientedOrd.eq_swap (α := Nat)
  case objectId.objectId => exact Std.OrientedOrd.eq_swap (α := Nat)
  all_goals first | rfl | exact Std.OrientedOrd.eq_swap (α := Int)

theorem order_of_numbers (ha : a.isNumber = true) (hb : b.isNumber = true) :
    a.order b = compareNumbers a b := by
  cases a with
  | int32 | int64 | double | decimal => cases b <;> simp_all [order, isNumber]
  | _ => cases ha

theorem array?_eq_none_iff (a : Value) : a.array? = none ↔ a.typeRank ≠ 5 := by
  cases a <;> simp [array?, typeRank]

theorem exists_eq_array (h : a.typeRank = 5) : ∃ items, a = .array items := by
  cases a <;> first | exact ⟨_, rfl⟩ | cases h

theorem crosses_of_rank_eq (h : a.typeRank = b.typeRank) (harray : a.array? = none) :
    a.crosses b = (a.isSymbol != b.isSymbol) := by
  cases a <;> cases b <;> try cases h
  case array.array => cases harray
  all_goals rfl

theorem crosses_comm_of_not_array (harray : a.array? = none) : b.crosses a = a.crosses b := by
  cases a <;> cases b <;> first | rfl | cases harray

end Kinds

theorem orderItems_cons (a b : Value) (as bs : List Value) :
    orderItems (a :: as) (b :: bs) = (a.order b).then (orderItems as bs) := by
  rw [orderItems]
  cases a.order b <;> rfl

theorem orderItems_swap {items : List Value} (h : ∀ a ∈ items, ∀ b : Value, b.order a = (a.order b).swap)
    (others : List Value) : orderItems others items = (orderItems items others).swap := by
  induction items generalizing others with
  | nil => cases others <;> rfl
  | cons a as ih =>
      obtain ⟨ha, has⟩ := List.forall_mem_cons.mp h
      cases others with
      | nil => rfl
      | cons b bs => rw [orderItems_cons, orderItems_cons, Ordering.swap_then, ha, ih has]

theorem order_swap_of_not_array {a : Value} (harray : a.array? = none) (b : Value) :
    b.order a = (a.order b).swap := by
  by_cases h : a.typeRank = b.typeRank
  · exact order_swap_of_rank_eq h harray
  · rw [order_of_rank_ne h, order_of_rank_ne (Ne.symm h)]
    exact Std.OrientedOrd.eq_swap

-- Arrays are compared item by item, so a proof by induction has its hypothesis
-- for every item of an array.
@[elab_as_elim]
theorem array_induction {motive : Value → Prop} (other : ∀ v : Value, v.array? = none → motive v)
    (array : ∀ items, (∀ item ∈ items, motive item) → motive (.array items)) (v : Value) : motive v := by
  induction v using tree_induction with
  | leaf v hleaf => exact other v (by cases v <;> first | rfl | cases hleaf)
  | document fields => exact other _ rfl
  | codeWithScope source scope => exact other _ rfl
  | array items ih => exact array items ih

-- Turning the sides round turns the order round.
theorem order_swap (a b : Value) : b.order a = (a.order b).swap := by
  induction a using array_induction generalizing b with
  | other v harray => exact order_swap_of_not_array harray b
  | array items ih =>
      by_cases hb : b.typeRank = 5
      · obtain ⟨others, rfl⟩ := exists_eq_array hb
        exact orderItems_swap ih others
      · rw [order_swap_of_not_array ((array?_eq_none_iff b).mpr hb), Ordering.swap_swap]

theorem order_self (v : Value) : v.order v = .eq := by
  have hswap := order_swap v v
  cases h : v.order v <;> simp_all

theorem crossesItems_comm {items : List Value} (h : ∀ a ∈ items, ∀ b : Value, b.crosses a = a.crosses b)
    (others : List Value) : crossesItems others items = crossesItems items others := by
  induction items generalizing others with
  | nil => cases others <;> rfl
  | cons a as ih =>
      obtain ⟨ha, has⟩ := List.forall_mem_cons.mp h
      cases others with
      | nil => rfl
      | cons b bs =>
          have heq : (b.order a == .eq) = (a.order b == .eq) := by
            rw [order_swap]
            cases a.order b <;> rfl
          rw [crossesItems, crossesItems, ha, heq, ih has]

theorem crosses_comm (a b : Value) : b.crosses a = a.crosses b := by
  induction a using array_induction generalizing b with
  | other v harray => exact crosses_comm_of_not_array harray
  | array items ih =>
      by_cases hb : b.typeRank = 5
      · obtain ⟨others, rfl⟩ := exists_eq_array hb
        exact crossesItems_comm ih others
      · exact (crosses_comm_of_not_array ((array?_eq_none_iff b).mpr hb)).symm

section

variable {a b c : Value}

theorem order_eq_rank_then (a b : Value) : a.order b = (compare a.typeRank b.typeRank).then (a.order b) := by
  by_cases h : a.typeRank = b.typeRank
  · rw [h, compare_eq_iff_eq.mpr rfl]
    rfl
  · rw [order_of_rank_ne h]
    cases compare a.typeRank b.typeRank <;> rfl

-- The ranks settle what they tell apart.
theorem follows_of_rank_eq
    (h : a.typeRank = b.typeRank → b.typeRank = c.typeRank → Follows (a.order b) (b.order c) (a.order c)) :
    Follows (a.order b) (b.order c) (a.order c) := by
  rw [order_eq_rank_then a b, order_eq_rank_then b c, order_eq_rank_then a c]
  exact (Follows.of_compare _ _ _).lex fun hab hbc => h (compare_eq_iff_eq.mp hab) (compare_eq_iff_eq.mp hbc)

theorem order_follows_of_not_array (harray : a.array? = none) (hab : a.crosses b = false)
    (hbc : b.crosses c = false) : Follows (a.order b) (b.order c) (a.order c) := by
  refine follows_of_rank_eq fun hrank hrank' => ?_
  have harray' : b.array? = none := by
    rw [array?_eq_none_iff] at harray ⊢
    rwa [← hrank]
  have hac : a.crosses c = false := by
    rw [crosses_of_rank_eq hrank harray] at hab
    rw [crosses_of_rank_eq hrank' harray'] at hbc
    rw [crosses_of_rank_eq (hrank.trans hrank') harray]
    simp_all
  rw [order_of_rank_eq hrank harray hab, order_of_rank_eq hrank' harray' hbc,
    order_of_rank_eq (hrank.trans hrank') harray hac]
  exact (Follows.of_compare _ _ _).lex fun _ _ => Follows.of_compare _ _ _

theorem orderItems_follows {as bs cs : List Value}
    (h : ∀ a ∈ as, ∀ b c : Value, a.crosses b = false → b.crosses c = false →
      Follows (a.order b) (b.order c) (a.order c))
    (hab : crossesItems as bs = false) (hbc : crossesItems bs cs = false) :
    Follows (orderItems as bs) (orderItems bs cs) (orderItems as cs) := by
  induction as generalizing bs cs with
  | nil =>
      cases bs with
      | nil => exact fun _ _ => rfl
      | cons b bs =>
          cases cs with
          | nil => exact fun _ hgt => absurd rfl hgt
          | cons c cs => exact fun _ _ => rfl
  | cons a as ih =>
      obtain ⟨ha, has⟩ := List.forall_mem_cons.mp h
      cases bs with
      | nil => exact fun hgt _ => absurd rfl hgt
      | cons b bs =>
          cases cs with
          | nil => exact fun _ hgt => absurd rfl hgt
          | cons c cs =>
              simp only [crossesItems, Bool.or_eq_false_iff, Bool.and_eq_false_imp, beq_iff_eq] at hab hbc
              rw [orderItems_cons, orderItems_cons, orderItems_cons]
              exact (ha b c hab.1 hbc.1).lex fun heq heq' => ih has (hab.2 heq) (hbc.2 heq')

-- Two comparisons without a string against a symbol, one after the other, settle the third.
theorem order_follows (hab : a.crosses b = false) (hbc : b.crosses c = false) :
    Follows (a.order b) (b.order c) (a.order c) := by
  induction a using array_induction generalizing b c with
  | other v harray => exact order_follows_of_not_array harray hab hbc
  | array items ih =>
      refine follows_of_rank_eq fun hrank hrank' => ?_
      obtain ⟨others, rfl⟩ := exists_eq_array hrank.symm
      obtain ⟨thirds, rfl⟩ := exists_eq_array hrank'.symm
      exact orderItems_follows (fun a ha b c => ih a ha) hab hbc

end

theorem lt_append_char (s : String) : s < s ++ "a" := by
  rw [String.lt_iff_toList_lt, String.toList_append]
  induction s.toList with
  | nil => exact List.nil_lt_cons _ _
  | cons c rest ih => exact List.cons_lt_cons_iff.mpr (Or.inr ⟨rfl, ih⟩)

-- A symbol stands level with every string, also with one that comes after another.
theorem symbol_between_strings (s t : String) :
    ∃ r : String, (Value.string r).order (.symbol t) ≠ .gt ∧ (Value.symbol t).order (.string s) ≠ .gt ∧
      (Value.string r).order (.string s) = .gt := by
  refine ⟨s ++ "a", ?_, ?_, compare_gt_iff_gt.mpr (lt_append_char s)⟩
  · exact Ordering.noConfusion
  · exact Ordering.noConfusion

end Value

end DocStore
