import DocStore.Proofs.Filter.Equality
import DocStore.Proofs.Pipeline.Group
import DocStore.Proofs.Store.Selection

namespace DocStore

namespace Selector

-- The query document with one more condition on a path: conjoined with it, or put behind the others
-- where the path has no condition yet.
inductive WithCondition (selector : Document) (path : String) (v : Value) : Document → Prop where
  | conjoined : WithCondition selector path v
      [("$and", .array [.document selector, .document [(path, v)]])]
  | inserted (hpath : path ∉ OrderedMap.keys selector) : WithCondition selector path v
      (OrderedMap.insert selector path v)

section

variable {d selector extended : Document} {path : String} {v : Value} {b : Bool}

theorem holds_concat (hselector : holds d selector = .ok b) (key : String) (arg : Value) :
    holds d (selector ++ [(key, arg)]) = if b then holds d [(key, arg)] else .ok false := by
  unfold holds at hselector ⊢
  induction selector with
  | nil =>
      cases hselector
      rfl
  | cons first rest ih =>
      rw [List.cons_append]
      simp only [entries] at hselector ⊢
      cases hfirst : entry d first.1 first.2 with
      | error e => simp [hfirst] at hselector
      | ok own =>
          cases own with
          | true => exact ih (by simpa [hfirst] using hselector)
          | false =>
              simp only [hfirst, Except.ok.injEq] at hselector
              simp [← hselector]

theorem holds_withCondition (hpath : Text.startsWithChar '$' path = false) (hdata : v.isData = true)
    (hselector : holds d selector = .ok b) (h : WithCondition selector path v extended) :
    holds d extended = .ok (b && equals (d.getPath? path) v) := by
  have hcondition : holds d [(path, v)] = .ok (equals (d.getPath? path) v) := by
    rw [holds_of_path hpath, condition_of_isData hdata]
  cases h with
  | conjoined =>
      rw [holds_and rfl, every_cons _ hselector, every_singleton, hcondition]
      cases b <;> rfl
  | inserted hnew =>
      rw [OrderedMap.insert_of_not_mem hnew, holds_concat hselector, hcondition]
      cases b <;> rfl

end

end Selector

namespace Collection

-- Whether the document holds the value at the path: as one that is no array, or as an item.
def HoldsAt (path : String) (v : Value) (d : Document) : Prop :=
  match d.getPath? path with
  | some (.array items) => ∃ item ∈ items, item.same v = true
  | some found => found.same v = true
  | none => False

-- What is asked of the distinct values at a path among some documents.
structure AreDistinct (path : String) (docs : List Document) (values : List Value) : Prop where
  ordered : values = Pipeline.firstSeen (docs.flatMap (valuesAt path))
  apart : values.Pairwise fun v w => v.same w = false ∧ w.same v = false
  complete : ∀ v, (∃ w ∈ values, w.same v = true) ↔ ∃ d ∈ docs, HoldsAt path v d

section

variable {path : String} {d selector : Document} {docs : List Document} {v : Value}

theorem holdsAt_iff : HoldsAt path v d ↔ ∃ w ∈ valuesAt path d, w.same v = true := by
  unfold HoldsAt valuesAt
  cases d.getPath? path with
  | none => simp
  | some found => cases found <;> simp

-- Only the values that are kept are looked at, and they stand for all before them.
theorem foldl_addNew (values : List Value) : values.foldl addNew [] = Pipeline.firstSeen values := by
  induction values using List.reverseRecOn with
  | nil => rfl
  | append_singleton rest v ih =>
      rw [List.foldl_concat, ih, addNew, Pipeline.any_firstSeen, Pipeline.firstSeen_concat]
      split <;> simp

theorem distinct_of_decided (path : String) (h : ∀ d ∈ docs, ∃ b, Selector.holds d selector = .ok b) :
    distinct path selector docs =
      .ok (Pipeline.firstSeen ((docs.filter (Selector.passes selector)).flatMap (valuesAt path))) := by
  unfold distinct
  rw [Selector.select_of_decided h]
  simp only [bind, Except.bind, pure, Except.pure, foldl_addNew]

theorem wellFormed_of_mem_valuesAt (hd : (Value.document d).WellFormed) (hv : v ∈ valuesAt path d) :
    v.WellFormed := by
  unfold valuesAt at hv
  split at hv
  · next items hfound =>
      have hitems : (Value.array items).WellFormed := Document.wellFormed_getPath? hd hfound
      exact Value.wellFormedItems_iff.mp hitems v hv
  · next found hfound =>
      obtain rfl := List.mem_singleton.mp hv
      exact Document.wellFormed_getPath? hd hfound
  · cases hv

theorem areDistinct_firstSeen (hdocs : ∀ d ∈ docs, (Value.document d).WellFormed) :
    AreDistinct path docs (Pipeline.firstSeen (docs.flatMap (valuesAt path))) where
  ordered := rfl
  apart := Pipeline.firstSeen_apart fun v hv => by
    obtain ⟨d, hd, hvd⟩ := List.mem_flatMap.mp hv
    exact wellFormed_of_mem_valuesAt (hdocs d hd) hvd
  complete v := by
    rw [Pipeline.exists_firstSeen_iff]
    constructor
    · rintro ⟨w, hw, hsame⟩
      obtain ⟨d, hd, hwd⟩ := List.mem_flatMap.mp hw
      exact ⟨d, hd, holdsAt_iff.mpr ⟨w, hwd, hsame⟩⟩
    · rintro ⟨d, hd, hholds⟩
      obtain ⟨w, hw, hsame⟩ := holdsAt_iff.mp hholds
      exact ⟨w, List.mem_flatMap.mpr ⟨d, hd, hw⟩, hsame⟩

-- A value that goes out is found again where it was, as the value or as an item.
theorem equals_of_mem_valuesAt (hv : v ∈ valuesAt path d) (hsame : v.same v = true) :
    Selector.equals (d.getPath? path) v = true := by
  unfold valuesAt at hv
  split at hv
  · next items hfound =>
      have hitem : items.any (Selector.equalValues · v) = true :=
        List.any_eq_true.mpr ⟨v, hv, Selector.equalValues_self hsame⟩
      rw [hfound, Selector.equals, hitem, Bool.or_true]
  · next found hfound =>
      obtain rfl := List.mem_singleton.mp hv
      rw [hfound, Selector.equals_self hsame]
  · cases hv

-- So is it among the documents that it comes from, with a condition for it put to theirs.
theorem count_withCondition_pos {extended : Document} (hpath : Text.startsWithChar '$' path = false)
    (hdecided : ∀ d ∈ docs, ∃ b, Selector.holds d selector = .ok b)
    (hv : v ∈ (docs.filter (Selector.passes selector)).flatMap (valuesAt path)) (hdata : v.isData = true)
    (hsame : v.same v = true) (h : Selector.WithCondition selector path v extended) :
    ∃ n, 0 < n ∧ count extended docs = .ok n := by
  have hextended : ∀ d ∈ docs, Selector.holds d extended =
      .ok (Selector.passes selector d && Selector.equals (d.getPath? path) v) := fun d hd =>
    Selector.holds_withCondition hpath hdata (Selector.holds_passes (hdecided d hd)) h
  obtain ⟨d, hd, hvd⟩ := List.mem_flatMap.mp hv
  obtain ⟨hmem, hpasses⟩ := List.mem_filter.mp hd
  have hpassing : (Selector.passes selector d && Selector.equals (d.getPath? path) v) = true := by
    rw [hpasses, equals_of_mem_valuesAt hvd hsame, Bool.and_self]
  have hcount : count extended docs = .ok (docs.filter fun d =>
      Selector.passes selector d && Selector.equals (d.getPath? path) v).length := by
    rw [count, Selector.select_eq_filter hextended]
    rfl
  exact ⟨_, List.length_pos_of_mem (List.mem_filter.mpr ⟨hmem, hpassing⟩), hcount⟩

end

end Collection

namespace Store

-- Whether a command asks for the distinct values at the path among what the query
-- document selects. Without a query document that is everything.
structure DistinctBy (command : Document) (name path : String) (selector : Document) : Prop where
  target : ∃ rest, command = ("distinct", .string name) :: rest
  key : command.string? "key" = some path
  query : orEmpty (command.document? "query") = selector

section

variable {s : Store} {session : Option SessionId} {name path : String} {selector command : Document}
  {data : Collections}

theorem runCommand_distinct (h : DistinctBy command name path selector) :
    (s.runCommand session command).1 =
      (s.distinctIn session name path selector).map fun values => reply [("values", .array values)] := by
  have hkey := h.key
  have hquery := h.query
  obtain ⟨rest, rfl⟩ := h.target
  simp only [runCommand, hkey, hquery]
  change (do return reply [("values", .array (← s.distinctIn session name path selector))]) = _
  cases s.distinctIn session name path selector <;> rfl

-- The distinct values at a path, asked for by a call or by a command: each value of a document
-- that is selected is the same as one of them, none of them is the same as another, and they
-- come in the order in which they are first seen. One that means itself is found by a condition.
theorem distinct_values (hview : s.view session = .ok data)
    (hdocs : ∀ d ∈ data.documents name, (Value.document d).WellFormed)
    (hdecided : ∀ d ∈ data.documents name, ∃ b, Selector.holds d selector = .ok b)
    (hpath : Text.startsWithChar '$' path = false) (hcommand : DistinctBy command name path selector)
    (hready : ∀ call ∈ ["distinct", "run_command", "count_documents"], s.failing ≠ some call) :
    ∃ values, (s.perform session (.distinct name path selector)).1 = .ok values ∧
      (s.perform session (.runCommand command)).1.map (Document.array? · "values") = .ok (some values) ∧
      Collection.AreDistinct path ((data.documents name).filter (Selector.passes selector)) values ∧
      ∀ v ∈ values, v.hasNaN = false → v.isData = true →
        ∀ extended, Selector.WithCondition selector path v extended →
          ∃ n, 0 < n ∧ (s.perform session (.countDocuments name extended)).1 = .ok n := by
  have hfound : s.distinctIn session name path selector = .ok (Pipeline.firstSeen
      (((data.documents name).filter (Selector.passes selector)).flatMap (Collection.valuesAt path))) := by
    unfold distinctIn
    rw [hview]
    exact Collection.distinct_of_decided path hdecided
  have hmatching : ∀ d ∈ (data.documents name).filter (Selector.passes selector),
      (Value.document d).WellFormed := fun d hd => hdocs d (List.mem_filter.mp hd).1
  refine ⟨_, ?_, ?_, Collection.areDistinct_firstSeen hmatching, fun v hv hnan hdata extended hextended => ?_⟩
  · rw [perform_of_read rfl rfl (hready "distinct" (by decide))]
    exact hfound
  · rw [perform_of_read rfl rfl (hready "run_command" (by decide))]
    change (s.runCommand session command).1.map _ = _
    rw [runCommand_distinct hcommand, hfound]
    rfl
  · have hmem := Pipeline.firstSeen_subset _ hv
    obtain ⟨d, hd, hvd⟩ := List.mem_flatMap.mp hmem
    have hsame : v.same v = true :=
      (Value.same_self_iff (Collection.wellFormed_of_mem_valuesAt (hmatching d hd) hvd)).mpr hnan
    obtain ⟨n, hpos, hcount⟩ := Collection.count_withCondition_pos hpath hdecided hmem hdata hsame hextended
    refine ⟨n, hpos, ?_⟩
    rw [perform_of_read rfl rfl (hready "count_documents" (by decide))]
    change s.countIn session name extended = .ok n
    unfold countIn
    rw [hview]
    exact hcount

end

def labelled (id : Int32) (label : Value) (kept : Bool) : Document :=
  [("_id", .int32 id), ("label", label), ("kept", .boolean kept)]

def labels : Store :=
  { committed := [("c", [labelled 1 (.array [.string "red", .string "blue"]) true,
      labelled 2 (.string "blue") true, labelled 3 (.string "green") false])] }

def onlyKept : Document := [("kept", .boolean true)]

def keptLabels : Document := [("distinct", .string "c"), ("key", .string "label"), ("query", .document onlyKept)]

-- A label that stands in an array and by itself comes once, and finds both documents.
theorem distinct_values_keptLabels :
    let values := [Value.string "red", .string "blue"]
    (labels.perform none (.distinct "c" "label" onlyKept)).1 = .ok values ∧
      (labels.perform none (.runCommand keptLabels)).1.map (Document.array? · "values") = .ok (some values) ∧
      ∃ n, 0 < n ∧ (labels.perform none (.countDocuments "c" (onlyKept ++ [("label", .string "blue")]))).1 =
        .ok n := by
  intro values
  have hwf : ∀ d ∈ labels.documents "c", (Value.document d).WellFormed := by
    simp [labels, labelled, documents, Collections.documents, OrderedMap.getD, OrderedMap.get?,
      Value.WellFormed, Value.WellFormedFields, Value.WellFormedItems, OrderedMap.Distinct, OrderedMap.keys]
  have hdecided : ∀ d ∈ labels.documents "c", ∃ b, Selector.holds d onlyKept = .ok b :=
    List.forall_mem_cons.mpr ⟨⟨true, rfl⟩, List.forall_mem_cons.mpr ⟨⟨true, rfl⟩,
      List.forall_mem_singleton.mpr ⟨false, rfl⟩⟩⟩
  have hready : ∀ call ∈ ["distinct", "run_command", "count_documents"], labels.failing ≠ some call := by
    simp [labels]
  obtain ⟨found, hcall, hreply, _, hfinds⟩ := @distinct_values labels none "c" "label" onlyKept keptLabels
    labels.committed rfl hwf hdecided rfl ⟨⟨_, rfl⟩, rfl, rfl⟩ hready
  have hvalues : (labels.perform none (.distinct "c" "label" onlyKept)).1 = .ok values := rfl
  obtain rfl : found = values := Except.ok.inj (hcall.symm.trans hvalues)
  exact ⟨hcall, hreply, hfinds (.string "blue") (by simp [values]) rfl rfl _ (.inserted (by decide))⟩

end Store

end DocStore
