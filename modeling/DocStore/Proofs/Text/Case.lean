import DocStore.Text.Case
import Mathlib

namespace DocStore.Text

def AllAscii (s : String) : Prop := ∀ c ∈ s.toList, isAscii c = true

instance (s : String) : Decidable (AllAscii s) := List.decidableBAll (isAscii · = true) s.toList

section

variable {c : Char} {cs : List Char} {s : String}

theorem isUppercase_of_isAscii (h : isAscii c = true) : isUppercase c = c.isUpper := by
  unfold isUppercase
  rw [if_pos h]
  rfl

theorem lower_of_isAscii (h : isAscii c = true) : lower c = [c.toLower] := by
  have hcode : c.toNat < 128 := of_decide_eq_true h
  have hdotted : c.toNat ≠ 0x130 := by omega
  simp [lower, lowerChar, h, hdotted]

theorem upper_of_isAscii (h : isAscii c = true) : upper c = [c.toUpper] := if_pos h

theorem lowercaseAfter_of_isAscii (h : ∀ c ∈ cs, isAscii c = true) (before : List Char) :
    lowercaseAfter before cs = cs.map Char.toLower := by
  induction cs generalizing before with
  | nil => rfl
  | cons c rest ih =>
      obtain ⟨hc, hrest⟩ := List.forall_mem_cons.mp h
      have hcode : c.toNat < 128 := of_decide_eq_true hc
      have hsigma : c.toNat ≠ 0x3a3 := by omega
      simp [lowercaseAfter, hsigma, lower_of_isAscii hc, ih hrest]

theorem lowercased_of_allAscii (h : AllAscii s) : lowercased s = asciiLowercase s := by
  simp [lowercased, asciiLowercase, lowercaseAfter_of_isAscii h]

-- Both forms of a letter are letters, and every other character is its own form.
theorem forms_of_letters {P : Char → Prop} (hletters : ∀ c : Char, c.isAlpha = true → P c) (hc : P c) :
    P c.toLower ∧ P c.toUpper := by
  by_cases halpha : c.isAlpha = true
  · exact ⟨hletters _ (by simpa using halpha), hletters _ (by simpa using halpha)⟩
  · obtain ⟨hupper, hlower⟩ : ¬ c.isUpper = true ∧ ¬ c.isLower = true := by simpa [Char.isAlpha] using halpha
    rw [Char.toLower_eq_of_not_isUpper hupper, Char.toUpper_eq_of_not_isLower hlower]
    exact ⟨hc, hc⟩

theorem isAscii_of_isAlpha (c : Char) (h : c.isAlpha = true) : isAscii c = true := by
  simp only [Char.isAlpha, Char.isUpper, Char.isLower, Bool.or_eq_true, Bool.and_eq_true, decide_eq_true_eq,
    ge_iff_le, UInt32.le_iff_toNat_le] at h
  have hcode : c.val.toNat = c.toNat := rfl
  have hupper : 'Z'.val.toNat = 90 := rfl
  have hlower : 'z'.val.toNat = 122 := rfl
  exact decide_eq_true (by omega)

theorem isAscii_forms (h : isAscii c = true) : isAscii c.toLower = true ∧ isAscii c.toUpper = true :=
  forms_of_letters isAscii_of_isAlpha h

end

end DocStore.Text
