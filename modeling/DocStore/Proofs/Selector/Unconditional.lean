import DocStore.Proofs.Selector.Logical

namespace DocStore.Selector

mutual

-- Whether no condition on a field and no text search stands in the query
-- document, at any depth.
def isUnconditional : List (String × Value) → Bool
  | [] => true
  | (key, arg) :: rest => isUnconditionalEntry key arg && isUnconditional rest
termination_by structural selector => selector

def isUnconditionalEntry (key : String) : Value → Bool
  | .array items => isLogical key && areUnconditional items
  | _ => false
termination_by structural arg => arg

def areUnconditional : List Value → Bool
  | [] => true
  | .document selector :: rest => isUnconditional selector && areUnconditional rest
  | _ :: _ => false
termination_by structural selectors => selectors

end

theorem areUnconditional_documents {items : List Value} (hitems : areUnconditional items = true) :
    items.all (·.document?.isSome) = true := by
  induction items with
  | nil => rfl
  | cons item rest ih =>
      cases item with
      | document q =>
          simp only [areUnconditional, Bool.and_eq_true] at hitems
          rw [List.all_cons, ih hitems.2]
          rfl
      | _ => simp [areUnconditional] at hitems

mutual

-- The document plays no part in what such a query document tells.
theorem entries_unconditional : ∀ selector : List (String × Value),
    isUnconditional selector = true → ∃ b, ∀ d, entries d selector = .ok b
  | [], _ => ⟨true, fun _ => rfl⟩
  | (key, arg) :: rest, h => by
      simp only [isUnconditional, Bool.and_eq_true] at h
      obtain ⟨first, hfirst⟩ := entry_unconditional key arg h.1
      obtain ⟨others, hothers⟩ := entries_unconditional rest h.2
      refine ⟨first && others, fun d => ?_⟩
      simp only [entries, hfirst d]
      cases first with
      | true => exact hothers d
      | false => rfl
termination_by structural selector => selector

theorem entry_unconditional (key : String) : ∀ arg : Value,
    isUnconditionalEntry key arg = true → ∃ b, ∀ d, entry d key arg = .ok b
  | .array items, h => by
      simp only [isUnconditionalEntry, Bool.and_eq_true] at h
      have hdocs := areUnconditional_documents h.2
      obtain ⟨⟨inEvery, hevery⟩, inSome, hsome⟩ := items_unconditional items h.2
      have hkey : (key = "$and" ∨ key = "$or") ∨ key = "$nor" := by
        simpa [isLogical] using h.1
      rcases hkey with (rfl | rfl) | rfl
      · exact ⟨inEvery, fun d => by rw [entry_and hdocs, hevery]⟩
      · exact ⟨inSome, fun d => by rw [entry_or hdocs, hsome]⟩
      · exact ⟨!inSome, fun d => by rw [entry_nor hdocs, hsome]; rfl⟩
termination_by structural arg => arg

theorem items_unconditional : ∀ items : List Value, areUnconditional items = true →
    (∃ b, ∀ d, every d items = .ok b) ∧ ∃ b, ∀ d, anyOf d items = .ok b
  | [], _ => ⟨⟨true, fun _ => rfl⟩, false, fun _ => rfl⟩
  | .document q :: rest, h => by
      simp only [areUnconditional, Bool.and_eq_true] at h
      obtain ⟨first, hfirst⟩ := entries_unconditional q h.1
      obtain ⟨⟨inEvery, hevery⟩, inSome, hsome⟩ := items_unconditional rest h.2
      refine ⟨⟨first && inEvery, fun d => ?_⟩, first || inSome, fun d => ?_⟩
      · rw [every_cons rest (hfirst d), hevery d]
        cases first <;> rfl
      · rw [anyOf_cons rest (hfirst d), hsome d]
        cases first <;> rfl
termination_by structural items => items

end

theorem holds_unconditional {selector : Document} (h : isUnconditional selector = true) :
    ∃ b, ∀ d, holds d selector = .ok b :=
  entries_unconditional selector h

end DocStore.Selector
