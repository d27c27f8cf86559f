import DocStore.Value.Path

namespace DocStore

namespace Text

theorem splitAt_ne_nil (separator : Char → Bool) (cs : List Char) : splitAt separator cs ≠ [] := by
  cases cs with
  | nil => simp [splitAt]
  | cons c rest =>
      unfold splitAt
      split
      · simp
      · split <;> simp

end Text

namespace Path

theorem segments_ne_nil (path : String) : segments path ≠ [] :=
  fun h => Text.splitAt_ne_nil _ path.toList (List.map_eq_nil_iff.mp h)

theorem segments_id : segments "_id" = ["_id"] := by decide

-- Paths at which values can be read.
structure Readable (path : String) : Prop where
  nonempty : path.isEmpty = false
  bytes : path.utf8ByteSize ≤ maxBytes
  segments : (segments path).length ≤ maxSegments

end Path

namespace Document

theorem descend_put (d : Document) (v : Value) {segments : List String} (h : segments ≠ []) :
    (Value.document (d.put segments v).1).descend segments = some v := by
  induction segments generalizing d with
  | nil => exact absurd rfl h
  | cons segment rest ih =>
      cases rest with
      | nil =>
          simp only [put, Value.descend]
          rw [OrderedMap.get?_insert_self]
      | cons next more =>
          have hinner := ih (d.subdocument segment) (List.cons_ne_nil next more)
          simp only [put, Value.descend] at hinner ⊢
          rw [OrderedMap.get?_insert_self]
          exact hinner

theorem getPath?_of_readable {path : String} (h : Path.Readable path) (d : Document) :
    d.getPath? path = (Value.document d).descend (Path.segments path) := by
  have hbytes : ¬ Path.maxBytes < path.utf8ByteSize := Nat.not_lt.mpr h.bytes
  have hsegments : ¬ Path.maxSegments < (Path.segments path).length := Nat.not_lt.mpr h.segments
  simp [getPath?, h.nonempty, hbytes, hsegments]

-- Whatever was in the way has given way to documents.
theorem getPath?_setPath {path : String} (h : Path.Readable path) (d : Document) (v : Value) :
    (d.setPath path v).1.getPath? path = some v := by
  rw [getPath?_of_readable h]
  exact descend_put d v (Path.segments_ne_nil path)

end Document

end DocStore
