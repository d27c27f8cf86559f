import Mathlib.Algebra.BigOperators.Group.List.Basic
import DocStore.Document.Update
import DocStore.Proofs.Selector.Integer
import DocStore.Proofs.Value.Whole

namespace DocStore

namespace Value

section

variable {a b : Value} {m n : Int}

theorem toWhole?_integer (h : a.integer? = some n) : a.toWhole? = some n := by
  cases a with
  | int32 k => exact h
  | int64 k => exact h
  | _ => cases h

theorem integer?_int64 (h : Integer.fits64 n = true) : (int64 (Int64.ofInt n)).integer? = some n := toWhole?_int64 h

theorem integer?_ofInt (h : Integer.fits64 n = true) : (ofInt n).integer? = some n := by
  have hwhole := toWhole?_ofInt h
  unfold ofInt at hwhole ⊢
  split <;> simp_all [integer?, toWhole?]

theorem ofInt_injective (hm : Integer.fits64 m = true) (hn : Integer.fits64 n = true) (h : ofInt m = ofInt n) :
    m = n := by
  have hsame : some m = some n := by rw [← integer?_ofInt hm, ← integer?_ofInt hn, h]
  exact Option.some.inj hsame

theorem fits64_clamp64 (n : Int) : Integer.fits64 (clamp64 n) = true := by
  rw [fits64_iff]
  unfold clamp64
  omega

theorem clamp64_eq_self_iff {n : Int} : clamp64 n = n ↔ Integer.fits64 n = true := by
  rw [fits64_iff]
  unfold clamp64
  omega

-- Adding one integer to another stops at the ends of the range.
theorem integer?_addNumber (ha : a.integer? = some m) (hb : b.integer? = some n) (amount : Double) :
    (a.addNumber b amount).integer? = some (clamp64 (m + n)) := by
  have hwide := integer?_int64 (fits64_clamp64 (m + n))
  cases a with
  | int32 k =>
      cases ha
      cases b with
      | int32 l =>
          cases hb
          have hk := Int32.le_toInt k
          have hk' := Int32.toInt_lt k
          have hl := Int32.le_toInt l
          have hl' := Int32.toInt_lt l
          have hbounds : -2 ^ 63 ≤ k.toInt + l.toInt ∧ k.toInt + l.toInt ≤ 2 ^ 63 - 1 := by omega
          have hfits : Integer.fits64 (k.toInt + l.toInt) = true := decide_eq_true hbounds
          rw [clamp64_eq_self_iff.mpr hfits]
          exact integer?_ofInt hfits
      | int64 l =>
          cases hb
          exact hwide
      | _ => cases hb
  | int64 k =>
      cases ha
      cases b with
      | int32 l =>
          cases hb
          exact hwide
      | int64 l =>
          cases hb
          exact hwide
      | _ => cases hb
  | _ => cases ha

end

-- A list of integers added up one by one, from a start.
def saturate (start : Int) (ns : List Int) : Int := ns.foldl (fun total n => clamp64 (total + n)) start

-- What that cuts off in all, the losses at the lower end counting against those at the upper one.
def cutOff : Int → List Int → Int
  | _, [] => 0
  | start, n :: rest => start + n - clamp64 (start + n) + cutOff (clamp64 (start + n)) rest

def isGain (n : Int) : Bool := decide (0 ≤ n)

-- What a list of integers adds, and what it takes away.
def gains (ns : List Int) : Int := (ns.filter isGain).sum

def losses (ns : List Int) : Int := (ns.filter (!isGain ·)).sum

-- Whether neither of them leaves the range.
def StaysInRange (ns : List Int) : Prop := gains ns ≤ Integer.max64 ∧ -(Integer.max64 : Int) - 1 ≤ losses ns

variable {start : Int} {ns ms : List Int}

@[simp] theorem saturate_nil (start : Int) : saturate start [] = start := rfl

@[simp] theorem saturate_cons (start n : Int) (rest : List Int) :
    saturate start (n :: rest) = saturate (clamp64 (start + n)) rest := rfl

theorem saturate_append (start : Int) (ns ms : List Int) :
    saturate start (ns ++ ms) = saturate (saturate start ns) ms := List.foldl_append

theorem fits64_saturate (h : Integer.fits64 start = true) (ns : List Int) :
    Integer.fits64 (saturate start ns) = true := by
  induction ns generalizing start with
  | nil => exact h
  | cons n rest ih => exact ih (fits64_clamp64 (start + n))

-- Nothing is lost but what is cut off.
theorem saturate_add_cutOff (start : Int) (ns : List Int) : saturate start ns + cutOff start ns = start + ns.sum := by
  induction ns generalizing start with
  | nil => simp [cutOff]
  | cons n rest ih =>
      have hrest := ih (clamp64 (start + n))
      rw [saturate_cons, cutOff, List.sum_cons]
      omega

theorem saturate_eq_sum_iff (ns : List Int) : saturate 0 ns = ns.sum ↔ cutOff 0 ns = 0 := by
  have hsum := saturate_add_cutOff 0 ns
  omega

theorem gains_add_losses (ns : List Int) : gains ns + losses ns = ns.sum := by
  have hperm := List.filter_append_perm isGain ns
  rw [← hperm.sum_eq, List.sum_append]
  rfl

theorem gains_cons (n : Int) (rest : List Int) : gains (n :: rest) = max n 0 + gains rest := by
  by_cases hn : 0 ≤ n
  · have hgain : isGain n = true := decide_eq_true hn
    rw [gains, List.filter_cons_of_pos hgain, List.sum_cons, max_eq_left hn]
    rfl
  · have hloss : ¬ isGain n = true := fun h => hn (of_decide_eq_true h)
    rw [gains, List.filter_cons_of_neg hloss, max_eq_right (by omega), zero_add]
    rfl

theorem losses_cons (n : Int) (rest : List Int) : losses (n :: rest) = min n 0 + losses rest := by
  have hall := gains_add_losses (n :: rest)
  have hrest := gains_add_losses rest
  rw [gains_cons, List.sum_cons] at hall
  omega

theorem gains_nonneg (ns : List Int) : 0 ≤ gains ns := by
  induction ns with
  | nil => exact le_refl 0
  | cons n rest ih =>
      rw [gains_cons]
      omega

theorem losses_nonpos (ns : List Int) : losses ns ≤ 0 := by
  induction ns with
  | nil => exact le_refl 0
  | cons n rest ih =>
      rw [losses_cons]
      omega

-- Where all is gain, the sum can leave the range at the upper end only.
theorem saturate_gains (hstart : Integer.fits64 start = true) (ns : List Int) :
    saturate start (ns.filter isGain) = min (start + gains ns) Integer.max64 := by
  induction ns generalizing start with
  | nil =>
      rw [fits64_iff] at hstart
      simp only [List.filter_nil, saturate_nil, gains, List.sum_nil]
      omega
  | cons n rest ih =>
      have hrest := gains_nonneg rest
      rw [gains_cons]
      by_cases hn : 0 ≤ n
      · have hgain : isGain n = true := decide_eq_true hn
        rw [List.filter_cons_of_pos hgain, saturate_cons, ih (fits64_clamp64 (start + n))]
        rw [fits64_iff] at hstart
        unfold clamp64
        omega
      · have hloss : ¬ isGain n = true := fun h => hn (of_decide_eq_true h)
        rw [List.filter_cons_of_neg hloss, ih hstart]
        omega

theorem saturate_losses (hstart : Integer.fits64 start = true) (ns : List Int) :
    saturate start (ns.filter (!isGain ·)) = max (start + losses ns) (-(Integer.max64 : Int) - 1) := by
  induction ns generalizing start with
  | nil =>
      rw [fits64_iff] at hstart
      simp only [List.filter_nil, saturate_nil, losses, List.sum_nil]
      omega
  | cons n rest ih =>
      have hrest := losses_nonpos rest
      rw [losses_cons]
      by_cases hn : 0 ≤ n
      · have hgain : ¬ (!isGain n) = true := by simp [isGain, hn]
        rw [List.filter_cons, if_neg hgain, ih hstart]
        omega
      · have hloss : (!isGain n) = true := by simp [isGain, hn]
        rw [List.filter_cons, if_pos hloss, saturate_cons, ih (fits64_clamp64 (start + n))]
        rw [fits64_iff] at hstart
        unfold clamp64
        omega

-- Nothing is cut off where the sum stays in the range all along.
theorem saturate_of_partial_sums (h : ∀ lead, lead <+: ns → Integer.fits64 (start + lead.sum) = true) :
    saturate start ns = start + ns.sum := by
  induction ns generalizing start with
  | nil => simp
  | cons n rest ih =>
      have hfirst : Integer.fits64 (start + n) = true := by
        simpa using h [n] (List.cons_prefix_cons.mpr ⟨rfl, List.nil_prefix⟩)
      have hrest : ∀ lead, lead <+: rest → Integer.fits64 (start + n + lead.sum) = true := by
        intro lead hlead
        rw [add_assoc, ← List.sum_cons]
        exact h (n :: lead) (List.cons_prefix_cons.mpr ⟨rfl, hlead⟩)
      rw [saturate_cons, clamp64_eq_self_iff.mpr hfirst, ih hrest, List.sum_cons, add_assoc]

-- As many ones as fit are counted.
theorem saturate_ones {count : Nat} (hstart : 0 ≤ start) (hfits : start + count ≤ Integer.max64) :
    saturate start (List.replicate count 1) = start + count := by
  induction count generalizing start with
  | zero => simp
  | succ count ih =>
      have hfirst : clamp64 (start + 1) = start + 1 := by
        unfold clamp64
        omega
      rw [List.replicate_succ, saturate_cons, hfirst, ih (by omega) (by omega)]
      omega

theorem gains_append (ns ms : List Int) : gains (ns ++ ms) = gains ns + gains ms := by
  rw [gains, List.filter_append, List.sum_append]
  rfl

theorem losses_append (ns ms : List Int) : losses (ns ++ ms) = losses ns + losses ms := by
  rw [losses, List.filter_append, List.sum_append]
  rfl

-- Where gains and losses stay in the range, so does the sum all along.
theorem StaysInRange.partial_sums (h : StaysInRange ns) {lead : List Int} (hlead : lead <+: ns) :
    Integer.fits64 lead.sum = true := by
  obtain ⟨more, rfl⟩ := hlead
  have hup := gains_nonneg more
  have hup' := losses_nonpos lead
  have hdown := losses_nonpos more
  have hdown' := gains_nonneg lead
  rw [StaysInRange, gains_append, losses_append] at h
  rw [← gains_add_losses, fits64_iff]
  omega

theorem saturate_of_staysInRange (h : StaysInRange ns) : saturate 0 ns = ns.sum := by
  have hsum : saturate 0 ns = 0 + ns.sum := saturate_of_partial_sums fun lead hlead => by
    rw [zero_add]
    exact h.partial_sums hlead
  rwa [zero_add] at hsum

theorem StaysInRange.perm (h : StaysInRange ns) (hperm : ms.Perm ns) : StaysInRange ms := by
  have hgains : gains ms = gains ns := (hperm.filter isGain).sum_eq
  have hlosses : losses ms = losses ns := (hperm.filter (!isGain ·)).sum_eq
  rw [StaysInRange, hgains, hlosses]
  exact h

-- With all gains in front the sum ends too low once they leave the range, with all losses in front
-- too high once those do; it is the same both ways only if neither happens.
theorem staysInRange_of_orders (hfits : Integer.fits64 ns.sum = true)
    (h : saturate 0 (ns.filter isGain ++ ns.filter (!isGain ·)) =
      saturate 0 (ns.filter (!isGain ·) ++ ns.filter isGain)) : StaysInRange ns := by
  have hzero : Integer.fits64 0 = true := rfl
  have hup := gains_nonneg ns
  have hdown := losses_nonpos ns
  rw [← gains_add_losses, fits64_iff] at hfits
  rw [saturate_append, saturate_append, saturate_losses (fits64_saturate hzero _), saturate_gains hzero,
    saturate_gains (fits64_saturate hzero _), saturate_losses hzero] at h
  unfold StaysInRange
  omega

end Value

end DocStore
