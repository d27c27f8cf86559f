import DocStore.Proofs.Outcome
import DocStore.Proofs.Selector.Identifier

namespace DocStore.Selector

-- Whether the document is selected, where that can be decided.
def passes (selector d : Document) : Bool :=
  match holds d selector with
  | .ok b => b
  | .error _ => false

variable {selector : Document} {docs found : List Document}

theorem holds_passes {d : Document} (h : ∃ b, holds d selector = .ok b) :
    holds d selector = .ok (passes selector d) := by
  obtain ⟨b, hb⟩ := h
  rw [passes, hb]

theorem select_of_decided (h : ∀ d ∈ docs, ∃ b, holds d selector = .ok b) :
    select selector docs = .ok (docs.filter (passes selector)) :=
  select_eq_filter fun d hd => holds_passes (h d hd)

theorem decided_of_select (h : select selector docs = .ok found) :
    ∀ d ∈ docs, ∃ b, holds d selector = .ok b := by
  induction docs generalizing found with
  | nil => simp
  | cons d rest ih =>
      rw [select] at h
      cases hd : holds d selector with
      | error e => simp [hd] at h
      | ok b =>
          -- either way the rest is selected from
          obtain ⟨others, hothers⟩ : ∃ others, select selector rest = .ok others := by
            cases b with
            | false => exact ⟨found, by simpa [hd] using h⟩
            | true =>
                obtain ⟨others, hothers, _⟩ := Except.map_eq_ok_iff.mp (by simpa [hd] using h)
                exact ⟨others, hothers⟩
          exact List.forall_mem_cons.mpr ⟨⟨b, hd⟩, ih hothers⟩

-- A query document without conditions selects everything.
theorem select_empty (docs : List Document) : select [] docs = .ok docs := by
  have hall : select [] docs = .ok (docs.filter fun _ => true) := select_eq_filter fun _ _ => rfl
  rw [hall, List.filter_eq_self.mpr fun _ _ => rfl]

-- Nothing is left to select among the documents that do not pass.
theorem select_rejected (h : ∀ d ∈ docs, ∃ b, holds d selector = .ok b) :
    select selector (docs.filter (!passes selector ·)) = .ok [] := by
  have hrest : ∀ d ∈ docs.filter (!passes selector ·), holds d selector = .ok false := by
    intro d hd
    obtain ⟨hmem, hpasses⟩ := List.mem_filter.mp hd
    rw [holds_passes (h d hmem)]
    simpa using hpasses
  rw [select_eq_filter hrest]
  simp

end DocStore.Selector
