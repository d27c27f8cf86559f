import DocStore.Proofs.Document.Edit

namespace DocStore

namespace Path

-- The name of the field of a document that a path leads to or into.
def top (path : String) : String := (segments path).headD ""

theorem segments_ne_of_top_ne {path key : String} (h : top path ≠ key) (rest : List String) :
    segments path ≠ key :: rest := by
  intro hsegments
  exact h (by simp [top, hsegments])

end Path

namespace Document

variable {op key : String} {d fields update : Document}

theorem get?_applyFields (h : ∀ path ∈ fields.keys, Path.top path ≠ key) :
    (applyFields op fields d).document.get? key = d.get? key := by
  induction fields generalizing d with
  | nil => rfl
  | cons field rest ih =>
      obtain ⟨path, v⟩ := field
      obtain ⟨hpath, hrest⟩ := List.forall_mem_cons.mp h
      unfold applyFields
      split
      · rfl
      · next next changed hstep =>
          have hfirst := get?_applyOperator (Path.segments_ne_of_top_ne hpath) hstep
          exact (ih hrest).trans hfirst

end Document

end DocStore
