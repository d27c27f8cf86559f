import DocStore.Proofs.Regex.Matches
import DocStore.Regex.Run
import Mathlib.Data.Finset.Card
import Mathlib.Data.Nat.BitIndices

namespace DocStore.Regex

-- Whether every repetition in the expression has its bounds in order.
def IsOrdered : Regex → Prop
  | empty => True
  | chars _ => True
  | look _ => True
  | seq a b => a.IsOrdered ∧ b.IsOrdered
  | alt a b => a.IsOrdered ∧ b.IsOrdered
  | times a low high => a.IsOrdered ∧ ∀ h, high = some h → low ≤ h
  | group _ a => a.IsOrdered

section Places

theorem testBit_cons_zero (b : Bool) (places : Nat) :
    ((if b = true then 1 else 0) + 2 * places).testBit 0 = b := by
  cases b <;> simp [Nat.testBit_zero, Nat.add_mod]

theorem testBit_cons_succ (b : Bool) (places i : Nat) :
    ((if b = true then 1 else 0) + 2 * places).testBit (i + 1) = places.testBit i := by
  have hhalf : ((if b = true then 1 else 0) + 2 * places) / 2 = places := by
    cases b
    · simp
    · simp
      omega
  rw [Nat.testBit_succ, hhalf]

theorem testBit_double_succ (places i : Nat) : (2 * places).testBit (i + 1) = places.testBit i := by
  simpa using testBit_cons_succ false places i

theorem testBit_charMask (set : CharSet) (text : List Char) (i : Nat) :
    (charMask set text).testBit i = true ↔ ∃ c, text[i]? = some c ∧ set.contains c = true := by
  induction text generalizing i with
  | nil => simp [charMask]
  | cons c rest ih =>
      cases i with
      | zero =>
          rw [charMask, testBit_cons_zero]
          simp
      | succ i => simpa [charMask, testBit_cons_succ] using ih i

-- The character before a place, where the one before the text is known.
def charAfter? (before : Option Char) (text : List Char) : Nat → Option Char
  | 0 => before
  | i + 1 => text[i]?

theorem testBit_lookMask (l : Look) (before : Option Char) (text : List Char) (i : Nat) :
    (lookMask l before text).testBit i = true ↔
      i ≤ text.length ∧ l.holds (charAfter? before text i) text[i]? = true := by
  induction text generalizing before i with
  | nil =>
      cases i with
      | zero => cases hl : l.holds before none <;> simp [lookMask, charAfter?, hl]
      | succ i =>
          have hbit : ∀ b : Bool, (if b = true then 1 else 0).testBit (i + 1) = false := fun b => by
            simpa using testBit_cons_succ b 0 i
          simp [lookMask, hbit]
  | cons c rest ih =>
      cases i with
      | zero =>
          rw [lookMask, testBit_cons_zero]
          simp [charAfter?]
      | succ i =>
          rw [lookMask, testBit_cons_succ, ih]
          cases i <;> simp [charAfter?]

end Places

def Within (last places : Nat) : Prop := ∀ i, places.testBit i = true → i ≤ last

-- Whether the function takes each set of places to where the relation leads from them, none of
-- it behind the last place.
structure Moves (last : Nat) (R : Nat → Nat → Prop) (step : Nat → Nat) : Prop where
  reached : ∀ places, Within last places →
    ∀ j, (step places).testBit j = true ↔ ∃ i, places.testBit i = true ∧ R i j
  within : ∀ i j, i ≤ last → R i j → j ≤ last

namespace Moves

variable {last places : Nat} {R : Nat → Nat → Prop} {step : Nat → Nat} (h : Moves last R step)
  (hplaces : Within last places)

include h

theorem within_chain {n i j : Nat} (hi : i ≤ last) (hchain : Chain R n i j) : j ≤ last := by
  induction n generalizing i with
  | zero => exact hchain ▸ hi
  | succ n ih =>
      obtain ⟨k, hk, hchain⟩ := hchain
      exact ih (h.within i k hi hk) hchain

include hplaces

theorem within_step : Within last (step places) := by
  intro j hj
  obtain ⟨i, hi, hR⟩ := (h.reached places hplaces j).mp hj
  exact h.within i j (hplaces i hi) hR

-- Steps that lead to nothing new have led to nothing new all the way.
theorem testBit_of_chain (hclosed : ∀ j, (step places).testBit j = true → places.testBit j = true) {n i j : Nat}
    (hi : places.testBit i = true) (hchain : Chain R n i j) : places.testBit j = true := by
  induction n generalizing i with
  | zero => exact hchain ▸ hi
  | succ n ih =>
      obtain ⟨k, hk, hchain⟩ := hchain
      exact ih (hclosed k ((h.reached places hplaces k).mpr ⟨i, hi, hk⟩)) hchain

theorem exists_chain_of_fixed (hfixed : step places = places) {j : Nat} (hj : places.testBit j = true)
    (n : Nat) : ∃ i, places.testBit i = true ∧ Chain R n i j := by
  induction n with
  | zero => exact ⟨j, hj, rfl⟩
  | succ n ih =>
      obtain ⟨k, hk, hchain⟩ := ih
      rw [← hfixed] at hk
      obtain ⟨i, hi, hR⟩ := (h.reached places hplaces k).mp hk
      exact ⟨i, hi, k, hR, hchain⟩

theorem testBit_iterate (n j : Nat) :
    (iterate step n places).testBit j = true ↔ ∃ i, places.testBit i = true ∧ Chain R n i j := by
  induction n generalizing places with
  | zero => simp [iterate, Chain]
  | succ n ih =>
      rw [iterate]
      split
      · next hfixed =>
          refine ⟨fun hj => exists_chain_of_fixed h hplaces hfixed hj (n + 1), ?_⟩
          rintro ⟨i, hi, hchain⟩
          exact testBit_of_chain h hplaces (fun k hk => hfixed ▸ hk) hi hchain
      · rw [ih (within_step h hplaces)]
        simp only [h.reached places hplaces, Chain]
        constructor
        · rintro ⟨k, ⟨i, hi, hR⟩, hchain⟩
          exact ⟨i, hi, k, hR, hchain⟩
        · rintro ⟨i, hi, k, hR, hchain⟩
          exact ⟨k, ⟨i, hi, hR⟩, hchain⟩

theorem within_more : Within last (places ||| step places) := by
  intro j hj
  rw [Nat.testBit_or, Bool.or_eq_true] at hj
  exact hj.elim (hplaces j) (within_step h hplaces j)

theorem within_closure (fuel : Nat) : Within last (closure step fuel places) := by
  induction fuel generalizing places with
  | zero => exact hplaces
  | succ fuel ih =>
      rw [closure]
      split
      · exact hplaces
      · exact ih (within_more h hplaces)

theorem testBit_closure (fuel j : Nat) : (closure step fuel places).testBit j = true ↔
    ∃ n ≤ fuel, ∃ i, places.testBit i = true ∧ Chain R n i j := by
  induction fuel generalizing places with
  | zero => simp [closure, Chain]
  | succ fuel ih =>
      rw [closure]
      split
      · next hfixed =>
          refine ⟨fun hj => ⟨0, Nat.zero_le _, j, hj, rfl⟩, ?_⟩
          rintro ⟨n, _, i, hi, hchain⟩
          refine testBit_of_chain h hplaces (fun k hk => ?_) hi hchain
          rw [← hfixed, Nat.testBit_or, hk, Bool.or_true]
      · rw [ih (within_more h hplaces)]
        simp only [Nat.testBit_or, Bool.or_eq_true, h.reached places hplaces]
        constructor
        · rintro ⟨n, hn, k, hk | ⟨i, hi, hR⟩, hchain⟩
          · exact ⟨n, Nat.le_succ_of_le hn, k, hk, hchain⟩
          · exact ⟨n + 1, Nat.succ_le_succ hn, i, hi, k, hR, hchain⟩
        · rintro ⟨n, hn, i, hi, hchain⟩
          cases n with
          | zero => exact ⟨0, Nat.zero_le _, i, .inl hi, hchain⟩
          | succ n =>
              obtain ⟨k, hR, hchain⟩ := hchain
              exact ⟨n, Nat.le_of_succ_le_succ hn, k, .inr ⟨i, hi, hR⟩, hchain⟩

-- Where the fuel runs out, every round has found a new place.
theorem closed_or_grown (fuel : Nat) :
    (∀ i j, (closure step fuel places).testBit i = true → R i j →
      (closure step fuel places).testBit j = true) ∨
      places.bitIndices.toFinset.card + fuel ≤ (closure step fuel places).bitIndices.toFinset.card := by
  induction fuel generalizing places with
  | zero => exact .inr (Nat.le_refl _)
  | succ fuel ih =>
      rw [closure]
      split
      · next hfixed =>
          refine .inl fun i j hi hR => ?_
          have hstep := (h.reached places hplaces j).mpr ⟨i, hi, hR⟩
          rw [← hfixed, Nat.testBit_or, hstep, Bool.or_true]
      · next hnew =>
          refine (ih (within_more h hplaces)).imp_right fun hgrown => ?_
          have hsubset : places.bitIndices.toFinset ⊂ (places ||| step places).bitIndices.toFinset := by
            refine (Finset.ssubset_iff_subset_ne).mpr ⟨fun i hi => ?_, fun hsame => hnew ?_⟩
            · simp only [List.mem_toFinset, Nat.mem_bitIndices, Nat.testBit_or, Bool.or_eq_true] at hi ⊢
              exact .inl hi
            · refine Nat.eq_of_testBit_eq fun i => ?_
              have hi := congrArg (i ∈ ·) hsame
              simp only [List.mem_toFinset, Nat.mem_bitIndices, eq_iff_iff] at hi
              exact Bool.eq_iff_iff.mpr hi.symm
          have hcard := Finset.card_lt_card hsubset
          omega

-- There are only so many places, so some round finds nothing new.
theorem closure_closed {i j : Nat} (hi : (closure step (last + 1) places).testBit i = true) (hR : R i j) :
    (closure step (last + 1) places).testBit j = true := by
  rcases closed_or_grown h hplaces (last + 1) with hclosed | hgrown
  · exact hclosed i j hi hR
  · have hsubset : (closure step (last + 1) places).bitIndices.toFinset ⊆ Finset.range (last + 1) := by
      intro k hk
      simp only [List.mem_toFinset, Nat.mem_bitIndices] at hk
      exact Finset.mem_range.mpr (Nat.lt_succ_of_le (within_closure h hplaces _ k hk))
    have hall := Finset.eq_of_subset_of_card_le hsubset (by rw [Finset.card_range]; omega)
    have hj : j ∈ Finset.range (last + 1) :=
      Finset.mem_range.mpr (Nat.lt_succ_of_le (h.within i j (within_closure h hplaces _ i hi) hR))
    rw [← hall] at hj
    simpa only [List.mem_toFinset, Nat.mem_bitIndices] using hj

theorem testBit_closure_all (j : Nat) : (closure step (last + 1) places).testBit j = true ↔
    ∃ n i, places.testBit i = true ∧ Chain R n i j := by
  constructor
  · intro hj
    obtain ⟨n, _, i, hi, hchain⟩ := (testBit_closure h hplaces (last + 1) j).mp hj
    exact ⟨n, i, hi, hchain⟩
  · rintro ⟨n, i, hi, hchain⟩
    have hstart : (closure step (last + 1) places).testBit i = true :=
      (testBit_closure h hplaces (last + 1) i).mpr ⟨0, Nat.zero_le _, i, hi, rfl⟩
    clear hi
    induction n generalizing i with
    | zero => exact hchain ▸ hstart
    | succ n ih =>
        obtain ⟨k, hR, hchain⟩ := hchain
        exact ih k hchain (closure_closed h hplaces hstart hR)

end Moves

section

variable {text : List Char}

theorem moves_of_reached {r : Regex}
    (h : ∀ places, Within text.length places →
      ∀ j, (run text r places).testBit j = true ↔ ∃ i, places.testBit i = true ∧ Matches text r i j) :
    Moves text.length (Matches text r) (run text r) :=
  ⟨h, fun _ _ hi hmatch => matches_within hi hmatch⟩

theorem testBit_run_look (l : Look) {places : Nat} (hplaces : Within text.length places) (j : Nat) :
    (run text (.look l) places).testBit j = true ↔
      ∃ i, places.testBit i = true ∧ Matches text (.look l) i j := by
  have hbefore : charAfter? none text = charBefore? text := by
    funext i
    cases i <;> rfl
  simp only [run, matches_look_iff, Nat.testBit_and, Bool.and_eq_true, testBit_lookMask, hbefore]
  constructor
  · rintro ⟨hj, -, hl⟩
    exact ⟨j, hj, rfl, hl⟩
  · rintro ⟨i, hi, rfl, hl⟩
    exact ⟨hi, hplaces j hi, hl⟩

-- As many steps as must be, and then as many more as may be.
theorem testBit_run_times {a : Regex} {low : Nat} {high : Option Nat}
    (ha : Moves text.length (Matches text a) (run text a)) (hbounds : ∀ h, high = some h → low ≤ h)
    {places : Nat} (hplaces : Within text.length places) (j : Nat) :
    (run text (.times a low high) places).testBit j = true ↔
      ∃ i, places.testBit i = true ∧ Matches text (.times a low high) i j := by
  have hfirst := ha.testBit_iterate hplaces low
  have hwithin : Within text.length (iterate (run text a) low places) := by
    intro k hk
    obtain ⟨i, hi, hchain⟩ := (hfirst k).mp hk
    exact ha.within_chain (hplaces i hi) hchain
  simp only [run, matches_times_iff]
  cases high with
  | none =>
      rw [extraSteps, ha.testBit_closure_all hwithin]
      constructor
      · rintro ⟨n, k, hk, hchain⟩
        obtain ⟨i, hi, hlow⟩ := (hfirst k).mp hk
        exact ⟨i, hi, low + n, ⟨Nat.le_add_right low n, by simp⟩, chain_add.mpr ⟨k, hlow, hchain⟩⟩
      · rintro ⟨i, hi, n, ⟨hlow, -⟩, hchain⟩
        obtain ⟨more, rfl⟩ := Nat.exists_eq_add_of_le hlow
        obtain ⟨k, hk, hmore⟩ := chain_add.mp hchain
        exact ⟨more, k, (hfirst k).mpr ⟨i, hi, hk⟩, hmore⟩
  | some high =>
      have hle := hbounds high rfl
      rw [extraSteps, ha.testBit_closure hwithin]
      constructor
      · rintro ⟨n, hn, k, hk, hchain⟩
        obtain ⟨i, hi, hlow⟩ := (hfirst k).mp hk
        refine ⟨i, hi, low + n, ⟨Nat.le_add_right low n, fun top htop => ?_⟩, chain_add.mpr ⟨k, hlow, hchain⟩⟩
        cases htop
        omega
      · rintro ⟨i, hi, n, ⟨hlow, hhigh⟩, hchain⟩
        obtain ⟨more, rfl⟩ := Nat.exists_eq_add_of_le hlow
        obtain ⟨k, hk, hmore⟩ := chain_add.mp hchain
        have htop := hhigh high rfl
        exact ⟨more, by omega, k, (hfirst k).mpr ⟨i, hi, hk⟩, hmore⟩

-- What the search does with a set of places, the expression does with each of them.
theorem moves_run {r : Regex} (hr : r.IsOrdered) : Moves text.length (Matches text r) (run text r) := by
  induction r with
  | empty => exact moves_of_reached fun places _ j => by simp [run, matches_empty_iff]
  | chars set =>
      refine moves_of_reached fun places _ j => ?_
      simp only [run, matches_chars_iff]
      cases j with
      | zero => simp
      | succ j => simp [testBit_double_succ, testBit_charMask]
  | look l => exact moves_of_reached fun places hplaces => testBit_run_look l hplaces
  | seq a b iha ihb =>
      refine moves_of_reached fun places hplaces j => ?_
      have ha := iha hr.1
      rw [run, (ihb hr.2).reached _ (ha.within_step hplaces)]
      simp only [ha.reached places hplaces, matches_seq_iff]
      constructor
      · rintro ⟨k, ⟨i, hi, hleft⟩, hright⟩
        exact ⟨i, hi, k, hleft, hright⟩
      · rintro ⟨i, hi, k, hleft, hright⟩
        exact ⟨k, ⟨i, hi, hleft⟩, hright⟩
  | alt a b iha ihb =>
      refine moves_of_reached fun places hplaces j => ?_
      rw [run, Nat.testBit_or, Bool.or_eq_true, (iha hr.1).reached places hplaces,
        (ihb hr.2).reached places hplaces, ← exists_or]
      simp only [matches_alt_iff, and_or_left]
  | times a low high ih =>
      exact moves_of_reached fun places hplaces => testBit_run_times (ih hr.1) hr.2 hplaces
  | group isKept a ih =>
      refine moves_of_reached fun places hplaces j => ?_
      rw [run, (ih hr).reached places hplaces]
      simp only [matches_group_iff]

theorem testBit_allPlaces (i : Nat) : (allPlaces text).testBit i = true ↔ i ≤ text.length := by
  have hbits := Nat.testBit_two_pow_sub_one (text.length + 1) i
  change (allPlaces text).testBit i = _ at hbits
  rw [hbits, decide_eq_true_eq, Nat.lt_succ_iff]

-- An expression is found exactly where it occurs.
theorem isMatch_iff {r : Regex} (hr : r.IsOrdered) : isMatch r text = true ↔ r.OccursIn text := by
  have hall : Within text.length (allPlaces text) := fun i hi => (testBit_allPlaces i).mp hi
  have hreached := (moves_run hr).reached _ hall
  simp only [testBit_allPlaces] at hreached
  rw [isMatch, bne_iff_ne]
  constructor
  · intro hne
    obtain ⟨j, hj⟩ := Nat.exists_testBit_of_ne_zero hne
    obtain ⟨i, hi, hmatch⟩ := (hreached j).mp hj
    exact ⟨i, j, hi, hmatch⟩
  · rintro ⟨i, j, hi, hmatch⟩ hzero
    have hj := (hreached j).mpr ⟨i, hi, hmatch⟩
    rw [hzero, Nat.zero_testBit] at hj
    cases hj

end

end DocStore.Regex
