import DocStore.Proofs.Value.Path

namespace DocStore

namespace Path

-- Whether neither path leads to a place that the other one leads through.
def Apart (p q : String) : Prop := ¬ segments p <+: segments q ∧ ¬ segments q <+: segments p

end Path

namespace Value

-- Whether two ways into a value lead through one array.
def MeetInArray (v : Value) (p q : List String) : Prop :=
  ∃ lead items, lead <+: p ∧ lead <+: q ∧ v.descend lead = some (.array items)

variable {fields : List (String × Value)} {key : String} {p q : List String}

theorem descend_document_cons (fields : List (String × Value)) (key : String) (rest : List String) :
    (document fields).descend (key :: rest) = (OrderedMap.get? fields key).bind (·.descend rest) := by
  rw [descend]
  cases OrderedMap.get? fields key <;> rfl

theorem descend_document_singleton (fields : List (String × Value)) (key : String) :
    (document fields).descend [key] = OrderedMap.get? fields key := by
  rw [descend_document_cons]
  cases OrderedMap.get? fields key with
  | none => rfl
  | some v => cases v <;> rfl

-- Two ways through one field meet in an array where they do so in the value of the field.
theorem meetInArray_cons_iff : (document fields).MeetInArray (key :: p) (key :: q) ↔
    ∃ w, OrderedMap.get? fields key = some w ∧ w.MeetInArray p q := by
  constructor
  · rintro ⟨lead, items, hp, hq, harray⟩
    cases lead with
    | nil => cases harray
    | cons segment more =>
        obtain ⟨hsegment, hp⟩ := List.cons_prefix_cons.mp hp
        obtain ⟨-, hq⟩ := List.cons_prefix_cons.mp hq
        rw [hsegment, descend_document_cons, Option.bind_eq_some_iff] at harray
        obtain ⟨w, hw, harray⟩ := harray
        exact ⟨w, hw, more, items, hp, hq, harray⟩
  · rintro ⟨w, hw, lead, items, hp, hq, harray⟩
    refine ⟨key :: lead, items, List.cons_prefix_cons.mpr ⟨rfl, hp⟩,
      List.cons_prefix_cons.mpr ⟨rfl, hq⟩, ?_⟩
    rw [descend_document_cons, hw]
    exact harray

-- Ways that part at once do not come to an array together.
theorem not_meetInArray_of_ne {other : String} (h : key ≠ other) :
    ¬ (document fields).MeetInArray (key :: p) (other :: q) := by
  rintro ⟨lead, items, hp, hq, harray⟩
  cases lead with
  | nil => cases harray
  | cons segment more =>
      exact h ((List.cons_prefix_cons.mp hp).1.symm.trans (List.cons_prefix_cons.mp hq).1)

theorem meetInArray_array (items : List Value) (p q : List String) : (array items).MeetInArray p q :=
  ⟨[], items, List.nil_prefix, List.nil_prefix, rfl⟩

theorem descend_nil {segments : List String} (h : segments ≠ []) : (document []).descend segments = none := by
  cases segments with
  | nil => exact absurd rfl h
  | cons key rest => rfl

theorem not_meetInArray_nil : ¬ (document []).MeetInArray p q := by
  rintro ⟨lead, items, -, -, harray⟩
  cases lead <;> cases harray

-- Nothing is below a value that is neither a document nor an array.
theorem descend_eq_none {v : Value} (hdocument : v.document? = none) (harray : v.array? = none)
    {segments : List String} (h : segments ≠ []) : v.descend segments = none := by
  cases segments with
  | nil => exact absurd rfl h
  | cons key rest =>
      cases v with
      | document fields => cases hdocument
      | array items => cases harray
      | _ => rfl

end Value

namespace Document

theorem put_cons (d : Document) (segment : String) {rest : List String} (h : rest ≠ []) (v : Value) :
    (d.put (segment :: rest) v).1 = d.insert segment (.document ((d.subdocument segment).put rest v).1) := by
  cases rest with
  | nil => exact absurd rfl h
  | cons next more => rfl

-- Writing along a way leaves the fields that the way does not begin with.
theorem get?_put_of_ne (d : Document) {segment other : String} (h : segment ≠ other) (rest : List String)
    (v : Value) : (d.put (segment :: rest) v).1.get? other = d.get? other := by
  cases rest with
  | nil => exact OrderedMap.get?_insert_of_ne d v h
  | cons next more => exact OrderedMap.get?_insert_of_ne d _ h

theorem subdocument_of_document {d inner : Document} {key : String}
    (h : d.get? key = some (.document inner)) : d.subdocument key = inner := by
  simp [subdocument, document?, h, Value.document?]

theorem subdocument_eq_nil {d : Document} {key : String}
    (h : ∀ inner, d.get? key ≠ some (.document inner)) : d.subdocument key = [] := by
  unfold subdocument document?
  cases hd : d.get? key with
  | none => rfl
  | some w =>
      cases w with
      | document inner => exact absurd hd (h inner)
      | _ => rfl

-- What writing along the one way makes of what is read along the other. Where something other than
-- a document stands under the last segment in common, both ways begin anew in an empty one.
theorem descend_put_of_apart {p q : List String} (hpq : ¬ p <+: q) (hqp : ¬ q <+: p) (d : Document)
    (v : Value) :
    ((Value.document d).MeetInArray p q → (Value.document (d.put p v).1).descend q = none) ∧
      (¬ (Value.document d).MeetInArray p q →
        (Value.document (d.put p v).1).descend q = (Value.document d).descend q) := by
  induction p generalizing d q with
  | nil => exact absurd List.nil_prefix hpq
  | cons segment rest ih =>
      obtain _ | ⟨other, more⟩ := q
      · exact absurd List.nil_prefix hqp
      by_cases hsame : segment = other
      · subst hsame
        have hrest : ¬ rest <+: more := fun h => hpq (List.cons_prefix_cons.mpr ⟨rfl, h⟩)
        have hmore : ¬ more <+: rest := fun h => hqp (List.cons_prefix_cons.mpr ⟨rfl, h⟩)
        have hrestne : rest ≠ [] := by
          rintro rfl
          exact hrest List.nil_prefix
        have hmorene : more ≠ [] := by
          rintro rfl
          exact hmore List.nil_prefix
        obtain ⟨hgone, hkept⟩ := ih hrest hmore (d.subdocument segment)
        rw [Value.descend_document_cons, put_cons d segment hrestne, OrderedMap.get?_insert_self,
          Option.bind_some, Value.descend_document_cons, Value.meetInArray_cons_iff]
        by_cases hinner : ∃ inner, d.get? segment = some (.document inner)
        · obtain ⟨inner, hinner⟩ := hinner
          rw [subdocument_of_document hinner] at hgone hkept ⊢
          simp only [hinner, Option.some.injEq, exists_eq_left', Option.bind_some]
          exact ⟨hgone, hkept⟩
        · have hnothing : ∀ inner, d.get? segment ≠ some (.document inner) := fun inner h => hinner ⟨inner, h⟩
          rw [subdocument_eq_nil hnothing] at hkept ⊢
          have hafter := hkept Value.not_meetInArray_nil
          rw [Value.descend_nil hmorene] at hafter
          refine ⟨fun _ => hafter, fun hmeet => ?_⟩
          cases hw : d.get? segment with
          | none => exact hafter
          | some w =>
              have hbelow : w.descend more = none := by
                cases w with
                | document inner => exact absurd hw (hnothing inner)
                | array items => exact absurd ⟨_, hw, Value.meetInArray_array items rest more⟩ hmeet
                | _ => exact Value.descend_eq_none rfl rfl hmorene
              exact hafter.trans hbelow.symm
      · refine ⟨fun hmeet => absurd hmeet (Value.not_meetInArray_of_ne hsame), fun _ => ?_⟩
        rw [Value.descend_document_cons, get?_put_of_ne d hsame, Value.descend_document_cons]

-- Whether two paths lead through one array of the document.
def MeetInArray (d : Document) (p q : String) : Prop :=
  (Value.document d).MeetInArray (Path.segments p) (Path.segments q)

section

variable {p q : String} (hp : Path.Readable p) (hq : Path.Readable q) (hapart : Path.Apart p q)

include hq hapart

theorem getPath?_setPath_of_meet {d : Document} (hmeet : d.MeetInArray p q) (v : Value) :
    (d.setPath p v).1.getPath? q = none := by
  rw [getPath?_of_readable hq]
  exact (descend_put_of_apart hapart.1 hapart.2 d v).1 hmeet

theorem getPath?_setPath_of_apart {d : Document} (hmeet : ¬ d.MeetInArray p q) (v : Value) :
    (d.setPath p v).1.getPath? q = d.getPath? q := by
  rw [getPath?_of_readable hq, getPath?_of_readable hq]
  exact (descend_put_of_apart hapart.1 hapart.2 d v).2 hmeet

include hp

-- What has been written is read again. What is read elsewhere stays as it was exactly if it was
-- nothing or no array is on both ways; where one is, nothing is read any more.
theorem setPath_locality (d : Document) (v : Value) :
    (d.setPath p v).1.getPath? p = some v ∧
      (d.MeetInArray p q → (d.setPath p v).1.getPath? q = none) ∧
      ((d.setPath p v).1.getPath? q = d.getPath? q ↔ d.getPath? q = none ∨ ¬ d.MeetInArray p q) := by
  refine ⟨getPath?_setPath hp d v, fun hmeet => getPath?_setPath_of_meet hq hapart hmeet v, ?_⟩
  by_cases hmeet : d.MeetInArray p q
  · rw [getPath?_setPath_of_meet hq hapart hmeet v]
    simp [hmeet, eq_comm]
  · simp [hmeet, getPath?_setPath_of_apart hq hapart hmeet v]

end

-- A list of grades beside a name.
def report : Document :=
  [("pupil", .document [("name", .string "Ada"), ("grades", .array [.int32 1, .int32 2])])]

-- Beside the list another field may be written; to write into it takes the other grade with it.
theorem setPath_locality_report :
    (report.setPath "pupil.name" (.string "Bob")).1.getPath? "pupil.grades.1" = some (.int32 2) ∧
      (report.setPath "pupil.grades.0" (.int32 3)).1.getPath? "pupil.grades.0" = some (.int32 3) ∧
      (report.setPath "pupil.grades.0" (.int32 3)).1.getPath? "pupil.grades.1" = none := by
  have hname : Path.Readable "pupil.name" := ⟨rfl, by decide, by decide⟩
  have hfirst : Path.Readable "pupil.grades.0" := ⟨rfl, by decide, by decide⟩
  have hsecond : Path.Readable "pupil.grades.1" := ⟨rfl, by decide, by decide⟩
  have hbeside := setPath_locality hname hsecond ⟨by decide, by decide⟩ report (.string "Bob")
  have hwithin := setPath_locality hfirst hsecond ⟨by decide, by decide⟩ report (.int32 3)
  have hlist : report.MeetInArray "pupil.grades.0" "pupil.grades.1" :=
    ⟨["pupil", "grades"], _, by decide, by decide, rfl⟩
  have hapart : ¬ report.MeetInArray "pupil.name" "pupil.grades.1" := by
    intro hmeet
    have hmeet : (Value.document report).MeetInArray ["pupil", "name"] ["pupil", "grades", "1"] := hmeet
    obtain ⟨w, hw, hbelow⟩ := Value.meetInArray_cons_iff.mp hmeet
    cases hw
    exact Value.not_meetInArray_of_ne (by decide) hbelow
  exact ⟨hbeside.2.2.mpr (.inr hapart), hwithin.1, hwithin.2.1 hlist⟩

-- Of two items of a list, writing the one loses the other.
theorem setPath_not_local : ¬ ∀ (d : Document) (v : Value) (p q : String), Path.Readable p →
    Path.Readable q → Path.Apart p q → (d.setPath p v).1.getPath? q = d.getPath? q := by
  intro h
  have hitem := h [("a", .array [.int32 1, .int32 2])] (.int32 9) "a.0" "a.1" ⟨rfl, by decide, by decide⟩
    ⟨rfl, by decide, by decide⟩ ⟨by decide, by decide⟩
  cases hitem

end Document

end DocStore
