import DocStore.Proofs.Document.Edit

namespace DocStore

namespace Document

-- Whether the identifier is the first field.
def LedById (d : Document) : Prop := ∃ id rest, d = ("_id", id) :: rest

variable {d fields update : Document} {op path key : String} {v : Value} {way : List String}
  {result : Document × Bool}

theorem withId_ledById (d : Document) (id : Option Value) (fresh : ObjectId) : (d.withId id fresh).LedById :=
  ⟨_, _, rfl⟩

theorem LedById.insert (h : d.LedById) (key : String) (v : Value) : LedById (OrderedMap.insert d key v) := by
  obtain ⟨id, rest, rfl⟩ := h
  unfold OrderedMap.insert
  split
  · exact ⟨v, rest, rfl⟩
  · exact ⟨id, _, rfl⟩

theorem LedById.erase (h : d.LedById) (hkey : key ≠ "_id") : LedById (OrderedMap.erase d key) := by
  obtain ⟨id, rest, rfl⟩ := h
  unfold OrderedMap.erase
  rw [if_neg hkey.symm]
  exact ⟨id, _, rfl⟩

theorem LedById.put (h : d.LedById) (way : List String) (v : Value) : (d.put way v).1.LedById := by
  match way with
  | [] => exact h
  | [last] => exact h.insert last v
  | segment :: next :: more => exact h.insert segment _

-- Only at the identifier itself something is taken away in front.
theorem LedById.drop (h : d.LedById) (hway : way ≠ ["_id"]) : (d.drop way).1.LedById := by
  match way with
  | [] => exact h
  | [last] => exact h.erase fun hlast => hway (by rw [hlast])
  | segment :: next :: more => exact h.insert segment _

theorem LedById.applyOperator (h : d.LedById) (hstep : Document.applyOperator op path v d = .ok result) :
    result.1.LedById := by
  rcases applyOperator_cases hstep with ⟨_, rfl⟩ | ⟨w, _, rfl⟩ | ⟨hid, rfl⟩
  · exact h
  · exact h.put _ w
  · exact h.drop fun hsegments => hid (Path.eq_of_segments_eq_singleton hsegments)

theorem LedById.applyFields (h : d.LedById) (op : String) (fields : Document) :
    (Document.applyFields op fields d).document.LedById := by
  induction fields generalizing d with
  | nil => exact h
  | cons field rest ih =>
      obtain ⟨path, v⟩ := field
      unfold Document.applyFields
      split
      · exact h
      · next next changed hstep => exact ih (h.applyOperator hstep)

theorem LedById.applyUpdate (h : d.LedById) (update : Document) :
    (update.applyUpdate d).document.LedById := by
  induction update generalizing d with
  | nil => exact h
  | cons entry rest ih =>
      obtain ⟨op, arg⟩ := entry
      cases arg with
      | document fields =>
          unfold Document.applyUpdate
          dsimp only
          split
          · exact h.applyFields op fields
          · exact ih (h.applyFields op fields)
      | _ => exact h

end Document

end DocStore
