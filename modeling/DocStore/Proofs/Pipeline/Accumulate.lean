import Mathlib.Data.List.Induction
import DocStore.Pipeline.Group
import DocStore.Proofs.Value.Saturation
import DocStore.Proofs.Value.Symbol

namespace DocStore

namespace Value

-- What is better than a value is better than all that is not better than that.
theorem order_ne_of_better {wanted : Ordering} (hwanted : wanted = .lt ∨ wanted = .gt) {v b w : Value}
    (hvb : v.crosses b = false) (hbw : b.crosses w = false) (hbetter : v.order b = wanted)
    (hw : w.order b ≠ wanted) : w.order v ≠ wanted := by
  rcases hwanted with rfl | rfl
  · have hle : b.order w ≠ .gt := by
      rw [order_swap w b]
      cases h : w.order b <;> simp_all
    have hvw : v.order w = .lt := by
      have hfollows := order_follows hvb hbw (by simp [hbetter]) hle
      rwa [hbetter] at hfollows
    rw [order_swap v w, hvw]
    simp
  · have hbv : b.order v = .lt := by rw [order_swap v b, hbetter]; rfl
    have hwb : w.crosses b = false := by rw [crosses_comm b w, hbw]
    have hcross : b.crosses v = false := by rw [crosses_comm v b, hvb]
    exact (order_follows hwb hcross).ne_gt hw (by simp [hbv])

theorem toDouble?_eq_none {v : Value} (h : v.isNumber = false) : v.toDouble? = none := by
  cases v <;> first | rfl | cases h

end Value

namespace Pipeline.Accumulator

def feedAll (acc : Accumulator) (vs : List Value) : Accumulator := vs.foldl (fun acc v => acc.feed v) acc

@[simp] theorem feedAll_nil (acc : Accumulator) : acc.feedAll [] = acc := rfl

@[simp] theorem feedAll_cons (acc : Accumulator) (v : Value) (vs : List Value) :
    acc.feedAll (v :: vs) = (acc.feed v).feedAll vs := rfl

theorem feedAll_concat (acc : Accumulator) (vs : List Value) (v : Value) :
    acc.feedAll (vs ++ [v]) = (acc.feedAll vs).feed v := by
  simp [feedAll]

theorem feedAll_push (items vs : List Value) : (push items).feedAll vs = push (items ++ vs) := by
  induction vs generalizing items with
  | nil => simp
  | cons v rest ih => simp [feed, ih]

theorem feedAll_first_some (w : Value) (vs : List Value) : (first (some w)).feedAll vs = first (some w) := by
  induction vs with
  | nil => rfl
  | cons v rest ih => simpa [feed] using ih

theorem feedAll_first (vs : List Value) : (first none).feedAll vs = first vs.head? := by
  cases vs with
  | nil => rfl
  | cons v rest => simp [feed, feedAll_first_some]

theorem feedAll_last (vs : List Value) : (last none).feedAll vs = last vs.getLast? := by
  induction vs using List.reverseRecOn with
  | nil => rfl
  | append_singleton rest v ih =>
      rw [feedAll_concat, ih, List.getLast?_concat]
      rfl

theorem feedAll_min (best : Option Value) (vs : List Value) :
    (min best).feedAll vs = min (vs.foldl (better .lt) best) := by
  induction vs generalizing best with
  | nil => rfl
  | cons v rest ih => simp [feed, ih]

theorem feedAll_max (best : Option Value) (vs : List Value) :
    (max best).feedAll vs = max (vs.foldl (better .gt) best) := by
  induction vs generalizing best with
  | nil => rfl
  | cons v rest ih => simp [feed, ih]

-- Integers add to the sum of the whole numbers, anything that is no number to nothing.
theorem feedAll_integers {vs : List Value}
    (h : ∀ v ∈ vs, v.isNumber = true → ∃ n, v.integer? = some n) (total : Double) (whole : Int) :
    ∃ total', (sum total whole true).feedAll vs =
      sum total' (Value.saturate whole (vs.filterMap Value.integer?)) true := by
  induction vs generalizing total whole with
  | nil => exact ⟨total, rfl⟩
  | cons v rest ih =>
      obtain ⟨hv, hrest⟩ := List.forall_mem_cons.mp h
      by_cases hnumber : v.isNumber = true
      · obtain ⟨n, hn⟩ := hv hnumber
        have hwhole : isWhole v = true := by
          cases v <;> first | rfl | cases hn
        have hfeed : (sum total whole true).feed v = sum (total + Double.ofInt n) (Value.clamp64 (whole + n)) true := by
          simp [feed, Value.toDouble?_of_integer hn, hwhole, Value.toWhole?_integer hn]
        rw [feedAll_cons, hfeed, List.filterMap_cons_some hn, Value.saturate_cons]
        exact ih hrest _ _
      · have hnone : v.toDouble? = none := Value.toDouble?_eq_none (by simpa using hnumber)
        have hinteger : v.integer? = none := by
          cases hn : v.integer? with
          | none => rfl
          | some n => exact absurd (Value.isNumber_of_integer hn) hnumber
        have hfeed : (sum total whole true).feed v = sum total whole true := by simp [feed, hnone]
        rw [feedAll_cons, hfeed, List.filterMap_cons_none hinteger]
        exact ih hrest total whole

-- Whether a value is the number one, as a whole number.
def isOne (v : Value) : Bool := isWhole v && v.toWhole? == some 1

theorem integer?_of_isOne {v : Value} (h : isOne v = true) : v.integer? = some 1 := by
  simp only [isOne, Bool.and_eq_true, beq_iff_eq] at h
  obtain ⟨hwhole, hvalue⟩ := h
  cases v with
  | int32 n => exact hvalue
  | int64 n => exact hvalue
  | _ => cases hwhole

-- As many ones as a whole number of 64 bits can count are counted one by one.
theorem feedAll_ones {vs : List Value} (hones : ∀ v ∈ vs, isOne v = true) (hsize : vs.length ≤ Integer.max64)
    (total : Double) : ∃ total', (sum total 0 true).feedAll vs = sum total' vs.length true := by
  have hintegers : vs.filterMap Value.integer? = List.replicate vs.length 1 := by
    rw [List.filterMap_congr fun v hv => integer?_of_isOne (hones v hv)]
    simp
  obtain ⟨total', hsum⟩ := feedAll_integers (fun v hv _ => ⟨1, integer?_of_isOne (hones v hv)⟩) total 0
  refine ⟨total', ?_⟩
  rw [hsum, hintegers, Value.saturate_ones (le_refl 0) (by omega), zero_add]

-- Whether the best of some values is one that is not null and than which none is better,
-- or there is no best one, all being null.
def IsBest (wanted : Ordering) (vs : List Value) : Option Value → Prop
  | none => ∀ v ∈ vs, v.isNull = true
  | some b => b ∈ vs ∧ b.isNull = false ∧ ∀ v ∈ vs, v.isNull = false → v.order b ≠ wanted

theorem isBest_foldl {wanted : Ordering} (hwanted : wanted = .lt ∨ wanted = .gt) {vs : List Value}
    (hsymbol : ∀ v ∈ vs, v.hasSymbol = false) : IsBest wanted vs (vs.foldl (better wanted) none) := by
  have hself (v : Value) : v.order v ≠ wanted := by
    rw [Value.order_self]
    rcases hwanted with rfl | rfl <;> simp
  -- From the end of the list, so that the best so far is at hand when the last value comes.
  induction vs using List.reverseRecOn with
  | nil => simp [IsBest]
  | append_singleton rest v ih =>
      obtain ⟨hrest, hv⟩ := List.forall_mem_append.mp hsymbol
      rw [List.forall_mem_singleton] at hv
      specialize ih hrest
      rw [List.foldl_concat]
      generalize rest.foldl (better wanted) none = best at ih
      unfold better
      split
      · next hnull =>
          cases best with
          | none => exact List.forall_mem_append.mpr ⟨ih, by simpa using hnull⟩
          | some b =>
              obtain ⟨hb, hbnull, hbest⟩ := ih
              refine ⟨List.mem_append_left [v] hb, hbnull, List.forall_mem_append.mpr ⟨hbest, ?_⟩⟩
              simp [hnull]
      · next hnull =>
          have hvnull : v.isNull = false := by simpa using hnull
          cases best with
          | none =>
              refine ⟨by simp, hvnull, List.forall_mem_append.mpr ⟨fun w hw hwnull => ?_, by simp [hself]⟩⟩
              rw [ih w hw] at hwnull
              cases hwnull
          | some b =>
              obtain ⟨hb, hbnull, hbest⟩ := ih
              dsimp only
              split
              · next hbetter =>
                  refine ⟨by simp, hvnull, List.forall_mem_append.mpr ⟨fun w hw hwnull => ?_, by simp [hself]⟩⟩
                  exact Value.order_ne_of_better hwanted (Value.crosses_of_no_symbol hv (hrest b hb))
                    (Value.crosses_of_no_symbol (hrest b hb) (hrest w hw)) hbetter (hbest w hw hwnull)
              · next hworse =>
                  exact ⟨List.mem_append_left [v] hb, hbnull,
                    List.forall_mem_append.mpr ⟨hbest, by simpa using fun _ => hworse⟩⟩

end Pipeline.Accumulator

end DocStore
