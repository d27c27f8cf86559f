import DocStore.Regex

namespace DocStore.Regex

-- Whether so many steps lead from the one place to the other.
def Chain (R : Nat → Nat → Prop) : Nat → Nat → Nat → Prop
  | 0, i, j => i = j
  | n + 1, i, j => ∃ k, R i k ∧ Chain R n k j

theorem chain_add {R : Nat → Nat → Prop} {m n i j : Nat} :
    Chain R (m + n) i j ↔ ∃ k, Chain R m i k ∧ Chain R n k j := by
  induction m generalizing i with
  | zero => simp [Chain]
  | succ m ih =>
      rw [Nat.succ_add]
      simp only [Chain, ih]
      constructor
      · rintro ⟨l, hl, k, hk, hj⟩
        exact ⟨k, ⟨l, hl, hk⟩, hj⟩
      · rintro ⟨k, ⟨l, hl, hk⟩, hj⟩
        exact ⟨l, hl, k, hk, hj⟩

section

variable {text : List Char}

-- Whether a number of repetitions is one that the bounds allow.
def Allows (low : Nat) (high : Option Nat) (n : Nat) : Prop := low ≤ n ∧ ∀ h, high = some h → n ≤ h

theorem chain_of_matches {r : Regex} {i j : Nat} (h : Matches text r i j) {a : Regex} {low : Nat}
    {high : Option Nat} (hr : r = .times a low high) : ∃ n, Allows low high n ∧ Chain (Matches text a) n i j := by
  induction h generalizing a low high with
  | timesNil _ _ i =>
      cases hr
      exact ⟨0, ⟨Nat.le_refl _, fun _ _ => Nat.zero_le _⟩, rfl⟩
  | timesCons _ _ _ i j k hhigh hfirst _ _ ihrest =>
      cases hr
      obtain ⟨n, ⟨hlow, hup⟩, hchain⟩ := ihrest rfl
      refine ⟨n + 1, ⟨by omega, fun m hm => ?_⟩, j, hfirst, hchain⟩
      subst hm
      have hpos : m ≠ 0 := fun hzero => hhigh (by rw [hzero])
      have hrest := hup (m - 1) rfl
      omega
  | _ => cases hr

theorem matches_of_chain {a : Regex} {n i j low : Nat} {high : Option Nat} (hn : Allows low high n)
    (hchain : Chain (Matches text a) n i j) : Matches text (.times a low high) i j := by
  induction n generalizing i low high with
  | zero =>
      obtain rfl : low = 0 := Nat.le_zero.mp hn.1
      obtain rfl : i = j := hchain
      exact .timesNil a high i
  | succ n ih =>
      obtain ⟨k, hk, hchain⟩ := hchain
      refine .timesCons a low high i k j ?_ hk (ih ⟨?_, ?_⟩ hchain)
      · rintro rfl
        exact absurd (hn.2 0 rfl) (Nat.not_succ_le_zero n)
      · have hlow := hn.1
        omega
      · intro m hm
        obtain ⟨top, rfl, rfl⟩ := Option.map_eq_some_iff.mp hm
        have htop := hn.2 top rfl
        omega

-- A repetition is so many stretches in a row as its bounds allow.
theorem matches_times_iff {a : Regex} {low i j : Nat} {high : Option Nat} :
    Matches text (.times a low high) i j ↔ ∃ n, Allows low high n ∧ Chain (Matches text a) n i j :=
  ⟨fun h => chain_of_matches h rfl, fun ⟨_, hn, hchain⟩ => matches_of_chain hn hchain⟩

theorem matches_seq_iff {a b : Regex} {i j : Nat} :
    Matches text (.seq a b) i j ↔ ∃ k, Matches text a i k ∧ Matches text b k j := by
  constructor
  · intro h
    cases h with
    | seq _ _ _ k _ ha hb => exact ⟨k, ha, hb⟩
  · rintro ⟨k, ha, hb⟩
    exact .seq a b i k j ha hb

theorem matches_chars_iff {set : CharSet} {i j : Nat} :
    Matches text (.chars set) i j ↔ j = i + 1 ∧ ∃ c, text[i]? = some c ∧ set.contains c = true := by
  constructor
  · intro h
    cases h with
    | chars _ _ c hc hset => exact ⟨rfl, c, hc, hset⟩
  · rintro ⟨rfl, c, hc, hset⟩
    exact .chars set i c hc hset

theorem matches_look_iff {l : Look} {i j : Nat} :
    Matches text (.look l) i j ↔ j = i ∧ l.holds (charBefore? text i) text[i]? = true := by
  constructor
  · intro h
    cases h with
    | look _ _ hl => exact ⟨rfl, hl⟩
  · rintro ⟨rfl, hl⟩
    exact .look l j hl

theorem matches_empty_iff {i j : Nat} : Matches text .empty i j ↔ j = i := by
  constructor
  · intro h
    cases h
    rfl
  · rintro rfl
    exact .empty j

theorem matches_alt_iff {a b : Regex} {i j : Nat} :
    Matches text (.alt a b) i j ↔ Matches text a i j ∨ Matches text b i j := by
  constructor
  · intro h
    cases h with
    | altLeft _ _ _ _ ha => exact .inl ha
    | altRight _ _ _ _ hb => exact .inr hb
  · rintro (ha | hb)
    · exact .altLeft a b i j ha
    · exact .altRight a b i j hb

theorem matches_group_iff {isKept : Bool} {a : Regex} {i j : Nat} :
    Matches text (.group isKept a) i j ↔ Matches text a i j := by
  constructor
  · intro h
    cases h with
    | group _ _ _ _ ha => exact ha
  · exact .group isKept a i j

theorem matches_within {r : Regex} {i j : Nat} (hi : i ≤ text.length) (h : Matches text r i j) :
    j ≤ text.length := by
  induction h with
  | empty => exact hi
  | chars _ i c hc => exact (List.getElem?_eq_some_iff.mp hc).1
  | look => exact hi
  | seq _ _ _ _ _ _ _ iha ihb => exact ihb (iha hi)
  | altLeft _ _ _ _ _ ih => exact ih hi
  | altRight _ _ _ _ _ ih => exact ih hi
  | timesNil => exact hi
  | timesCons _ _ _ _ _ _ _ _ _ ihfirst ihrest => exact ihrest (ihfirst hi)
  | group _ _ _ _ _ ih => exact ih hi

end

end DocStore.Regex
