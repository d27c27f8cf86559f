import DocStore.Proofs.Document.Locality
import DocStore.Proofs.Filter.Equality
import DocStore.Proofs.Selector.ElementMatch
import DocStore.Proofs.Value.NaN

namespace DocStore

-- The value that a condition demands a field to be equal to, if that is all it demands.
def Value.demanded? : Value → Option Value
  | .document [("$eq", v)] => some v
  | v => if v.isData then some v else none

theorem Value.demanded_cases {arg v : Value} (h : arg.demanded? = some v) :
    arg = .document [("$eq", v)] ∨ arg = v ∧ v.isData = true := by
  unfold demanded? at h
  split at h
  · cases h
    exact Or.inl rfl
  · split at h
    · next hdata =>
        cases h
        exact Or.inr ⟨rfl, hdata⟩
    · cases h

namespace Selector

-- Whether every path is paired with a value to be equal to, one that is equal to itself, and no path
-- leads through another.
structure EqualityTerms (selector : Document) : Prop where
  paths : ∀ entry ∈ selector, Text.startsWithChar '$' entry.1 = false
  apart : (OrderedMap.keys selector).Pairwise Path.Apart
  values : ∀ entry ∈ selector, ∃ v, entry.2.demanded? = some v ∧ v.WellFormed ∧ v.hasNaN = false

variable {selector d : Document} {arg v : Value}

theorem condition_of_demanded (h : arg.demanded? = some v) (found : Option Value) :
    condition found arg = .ok (equals found v) := by
  rcases Value.demanded_cases h with rfl | ⟨rfl, hdata⟩
  · exact condition_eq found v
  · exact condition_of_isData hdata found

theorem EqualityTerms.demanded (h : EqualityTerms selector) :
    ∀ entry ∈ selector, ∃ v, entry.2.demanded? = some v :=
  fun entry hentry => (h.values entry hentry).imp fun _ hv => hv.1

theorem EqualityTerms.entry_eq (h : EqualityTerms selector) {entry : String × Value} (hentry : entry ∈ selector)
    (hv : entry.2.demanded? = some v) (d : Document) :
    Selector.entry d entry.1 entry.2 = .ok (equals (d.getPath? entry.1) v) := by
  rw [entry_of_path (h.paths entry hentry), condition_of_demanded hv]

theorem EqualityTerms.decides (h : EqualityTerms selector) (d : Document) :
    ∀ entry ∈ selector, Decides d entry := by
  intro entry hentry
  obtain ⟨v, hv⟩ := h.demanded entry hentry
  exact ⟨_, h.entry_eq hentry hv d⟩

theorem EqualityTerms.decided (h : EqualityTerms selector) (d : Document) :
    ∃ b, holds d selector = .ok b := by
  obtain ⟨b, hb, _⟩ := entries_of_decides (h.decides d)
  exact ⟨b, hb⟩

-- A document is selected if at every path it holds what is demanded there.
theorem EqualityTerms.holds_iff (h : EqualityTerms selector) (d : Document) :
    holds d selector = .ok true ↔
      ∀ entry ∈ selector, ∀ v, entry.2.demanded? = some v → equals (d.getPath? entry.1) v = true := by
  obtain ⟨b, hb, hiff⟩ := entries_of_decides (h.decides d)
  rw [holds, hb, Except.ok.injEq, hiff]
  refine forall₂_congr fun entry hentry => ?_
  obtain ⟨v, hv⟩ := h.demanded entry hentry
  rw [Passes, h.entry_eq hentry hv d, hv]
  simp

-- What reads the same at every path is selected alike.
theorem EqualityTerms.holds_congr (h : EqualityTerms selector) {e : Document}
    (hsame : ∀ entry ∈ selector, e.getPath? entry.1 = d.getPath? entry.1) :
    holds e selector = .ok true ↔ holds d selector = .ok true := by
  rw [h.holds_iff, h.holds_iff]
  exact forall₂_congr fun entry hentry => by rw [hsame entry hentry]

end Selector

end DocStore
