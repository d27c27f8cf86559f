import DocStore.Proofs.Filter.Equality
import DocStore.Proofs.Selector.Identifier
import DocStore.Proofs.Value.Order

namespace DocStore

namespace Value

-- Whether the value stands neither for a pattern nor for operators or fields.
def isPlain : Value → Bool
  | .regex _ _ => false
  | .document _ => false
  | _ => true

theorem isData_of_isPlain {v : Value} (h : v.isPlain = true) : v.isData = true := by
  cases v <;> first | rfl | cases h

theorem isPlain_of_same {a b : Value} (h : a.same b = true) : a.isPlain = b.isPlain := by
  rcases same_cases h with rfl | ⟨x, y, rfl, rfl⟩ | ⟨s, t, rfl, rfl, _⟩ | ⟨s, t, rfl, rfl, _⟩ |
    ⟨source, s, t, rfl, rfl, _⟩ <;> rfl

theorem isPlain_of_isNumber {v : Value} (h : v.isNumber = true) : v.isPlain = true := by
  cases v <;> first | rfl | cases h

theorem isNumber_of_same {a b : Value} (h : a.same b = true) : a.isNumber = b.isNumber := by
  rcases same_cases h with rfl | ⟨x, y, rfl, rfl⟩ | ⟨s, t, rfl, rfl, _⟩ | ⟨s, t, rfl, rfl, _⟩ |
    ⟨source, s, t, rfl, rfl, _⟩ <;> rfl

-- The values that a lookup finds a value by.
def offers : Value → List Value
  | .array items => .array items :: items
  | v => [v]

theorem offers_of_not_array {v : Value} (h : v.array? = none) : v.offers = [v] := by
  cases v <;> first | rfl | cases h

theorem wellFormed_of_mem_offers {v w : Value} (hv : v.WellFormed) (hw : w ∈ v.offers) : w.WellFormed := by
  cases v with
  | array items =>
      rcases List.mem_cons.mp hw with rfl | hmem
      · exact hv
      · exact wellFormedItems_iff.mp hv w hmem
  | _ => exact List.mem_singleton.mp hw ▸ hv

end Value

namespace Selector

variable {a b c v : Value}

theorem equals_iff_exists_offer :
    equals (some a) v = true ↔ ∃ x ∈ a.offers, equalValues x v = true := by
  cases a <;> simp [equals, Value.offers]

-- A number equals numbers of its size, and what is none equals what is the same.
theorem equalValues_iff : equalValues a b = true ↔
    (a.isNumber = true ∧ b.isNumber = true ∧ a.order b = .eq) ∨
      (a.isNumber = false ∧ b.isNumber = false ∧ a.same b = true) := by
  unfold equalValues
  by_cases ha : a.isNumber = true
  · by_cases hb : b.isNumber = true
    · simp [ha, hb]
    · have hdiffer : a.same b ≠ true := fun h => hb (Value.isNumber_of_same h ▸ ha)
      simpa [ha, hb] using hdiffer
  · have hsame : a.same b = true → b.isNumber = false := fun h => by
      rw [← Value.isNumber_of_same h]
      simpa using ha
    simpa [ha] using hsame

theorem equalValues_symm (ha : a.WellFormed) (hb : b.WellFormed) (h : equalValues a b = true) :
    equalValues b a = true := by
  rw [equalValues_iff] at h ⊢
  rcases h with ⟨han, hbn, horder⟩ | ⟨han, hbn, hsame⟩
  · exact Or.inl ⟨hbn, han, by rw [Value.order_swap, horder]; rfl⟩
  · exact Or.inr ⟨hbn, han, Value.same_symm ha hb hsame⟩

theorem equalValues_trans (hab : equalValues a b = true) (hbc : equalValues b c = true) :
    equalValues a c = true := by
  rw [equalValues_iff] at hab hbc ⊢
  rcases hab with ⟨ha, hb, hleft⟩ | ⟨ha, hb, hleft⟩ <;> rcases hbc with ⟨hb', hc, hright⟩ | ⟨hb', hc, hright⟩
  · refine Or.inl ⟨ha, hc, ?_⟩
    rw [Value.order_of_numbers ha hb] at hleft
    rw [Value.order_of_numbers hb hc] at hright
    rw [Value.order_of_numbers ha hc]
    exact compare_eq_iff_eq.mpr ((compare_eq_iff_eq.mp hleft).trans (compare_eq_iff_eq.mp hright))
  · cases hb.symm.trans hb'
  · cases hb.symm.trans hb'
  · exact Or.inr ⟨ha, hc, Value.same_trans hleft hright⟩

theorem isPlain_of_equalValues (h : equalValues a b = true) : a.isPlain = b.isPlain := by
  rcases equalValues_iff.mp h with ⟨ha, hb, _⟩ | ⟨_, _, hsame⟩
  · rw [Value.isPlain_of_isNumber ha, Value.isPlain_of_isNumber hb]
  · exact Value.isPlain_of_same hsame

-- Whether no plain value that the one offers equals one that the other offers.
def Apart (a b : Value) : Prop :=
  ∀ x ∈ a.offers, ∀ y ∈ b.offers, x.isPlain = true → equalValues x y = false

-- Two values are found by one plain value exactly if they are not apart.
theorem apart_iff (ha : a.WellFormed) (hb : b.WellFormed) :
    Apart a b ↔ ∀ v : Value, v.isPlain = true → v.WellFormed →
      ¬ (equals (some a) v = true ∧ equals (some b) v = true) := by
  constructor
  · rintro hapart v hplain hv ⟨hleft, hright⟩
    obtain ⟨x, hx, hxv⟩ := equals_iff_exists_offer.mp hleft
    obtain ⟨y, hy, hyv⟩ := equals_iff_exists_offer.mp hright
    have hvy := equalValues_symm (Value.wellFormed_of_mem_offers hb hy) hv hyv
    have hdiffer := hapart x hx y hy ((isPlain_of_equalValues hxv).trans hplain)
    rw [equalValues_trans hxv hvy] at hdiffer
    cases hdiffer
  · intro hnone x hx y hy hplain
    by_contra hequal
    have hxy : equalValues x y = true := by simpa using hequal
    have hywf := Value.wellFormed_of_mem_offers hb hy
    -- the one of the two values finds both
    have hyy := equalValues_trans (equalValues_symm (Value.wellFormed_of_mem_offers ha hx) hywf hxy) hxy
    refine hnone y ((isPlain_of_equalValues hxy).symm.trans hplain) hywf ⟨?_, ?_⟩
    · exact equals_iff_exists_offer.mpr ⟨x, hx, hxy⟩
    · exact equals_iff_exists_offer.mpr ⟨y, hy, hyy⟩

-- Values that are no arrays and not the same are apart unless they are numbers of one size.
theorem apart_iff_of_not_array (ha : a.array? = none) (hb : b.array? = none) (hsame : a.same b = false) :
    Apart a b ↔ ¬ (a.isNumber = true ∧ b.isNumber = true ∧ a.order b = .eq) := by
  have hequal : equalValues a b = true ↔ a.isNumber = true ∧ b.isNumber = true ∧ a.order b = .eq := by
    simp [equalValues_iff, hsame]
  unfold Apart
  rw [Value.offers_of_not_array ha, Value.offers_of_not_array hb]
  simp only [List.mem_singleton, forall_eq, ← hequal, Bool.not_eq_true]
  refine ⟨fun h => ?_, fun h _ => h⟩
  by_contra hdiffer
  have hnumbers := hequal.mp (by simpa using hdiffer)
  exact hdiffer (h (Value.isPlain_of_isNumber hnumbers.1))

theorem holds_id_of_isData (d : Document) (hv : v.isData = true) :
    holds d [("_id", v)] = .ok (equals (d.get? "_id") v) := by
  rw [holds_of_path rfl, Document.getPath?_id, condition_of_isData hv]

end Selector

end DocStore
