import DocStore.Proofs.Selector.Logical
import DocStore.Proofs.Value.Path

namespace DocStore

theorem Document.getPath?_id (d : Document) : d.getPath? "_id" = d.get? "_id" := by
  have hsize : ("_id" : String).utf8ByteSize = 3 := rfl
  have hempty : ("_id" : String).isEmpty = false := rfl
  simp only [Document.getPath?, Path.segments_id, hsize, hempty]
  simp only [Path.maxBytes, Path.maxSegments, List.length_singleton, Value.descend]
  cases d.get? "_id" <;> rfl

namespace Selector

theorem holds_id (d : Document) (id : String) :
    holds d [("_id", .string id)] = .ok (equals (d.get? "_id") (.string id)) := by
  rw [holds_of_path rfl, Document.getPath?_id]
  rfl

theorem select_eq_filter {selector : Document} {docs : List Document} {passes : Document → Bool}
    (h : ∀ d ∈ docs, holds d selector = .ok (passes d)) : select selector docs = .ok (docs.filter passes) := by
  induction docs with
  | nil => rfl
  | cons d rest ih =>
      have hrest := ih fun other hother => h other (List.mem_cons_of_mem d hother)
      rw [select, h d List.mem_cons_self, hrest]
      cases hd : passes d with
      | true => simp [hd, Except.map]
      | false => simp [hd]

end Selector

end DocStore
