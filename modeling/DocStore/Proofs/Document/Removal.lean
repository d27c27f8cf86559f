import DocStore.Proofs.Document.Edit

namespace DocStore.Document

section Update

variable {op : String} {first rest update d : Document} {changed : Bool}

-- Fields go on from what those in front of them have left.
theorem applyFields_append (h : (applyFields op first d).outcome = .ok changed) (rest : Document) :
    (applyFields op (first ++ rest) d).document =
      (applyFields op rest (applyFields op first d).document).document := by
  induction first generalizing d changed with
  | nil => rfl
  | cons field more ih =>
      obtain ⟨path, v⟩ := field
      simp only [List.cons_append, applyFields] at h ⊢
      split at h
      · cases h
      · next next own hstep =>
          obtain ⟨others, hothers, _⟩ := Except.map_eq_ok_iff.mp h
          simp only [ih hothers]

theorem applyUpdate_cons (h : (applyFields op first d).outcome = .ok changed) (rest : Document) :
    (applyUpdate ((op, .document first) :: rest) d).document =
      (applyUpdate rest (applyFields op first d).document).document := by
  simp only [applyUpdate, h]

-- Operators go on from what those in front of them have left.
theorem applyUpdate_append (h : (applyUpdate update d).outcome = .ok changed) (rest : Document) :
    (applyUpdate (update ++ rest) d).document = (applyUpdate rest (applyUpdate update d).document).document := by
  induction update generalizing d changed with
  | nil => rfl
  | cons entry more ih =>
      obtain ⟨op, arg⟩ := entry
      cases arg with
      | document fields =>
          simp only [applyUpdate] at h
          split at h
          · cases h
          · next own hfirst =>
              obtain ⟨others, hothers, _⟩ := Except.map_eq_ok_iff.mp h
              rw [List.cons_append, applyUpdate_cons hfirst, applyUpdate_cons hfirst, ih hothers]
      | _ => cases h

-- The identifier is not removed.
theorem applyOperator_unset (path : String) (v : Value) (d : Document) :
    applyOperator "$unset" path v d = .ok (if path = "_id" then (d, false) else d.unsetPath path) := by
  by_cases hid : path = "_id" <;> simp [applyOperator, hid]

theorem applyFields_unset_ok (fields d : Document) :
    ∃ changed, (applyFields "$unset" fields d).outcome = .ok changed := by
  induction fields generalizing d with
  | nil => exact ⟨false, rfl⟩
  | cons field rest ih =>
      obtain ⟨path, v⟩ := field
      rw [applyFields, applyOperator_unset]
      obtain ⟨changed, hrest⟩ := ih (if path = "_id" then (d, false) else d.unsetPath path).1
      exact ⟨_, by simp only [hrest]; rfl⟩

end Update

section Projection

variable {projection d : Document}

-- Whether all entries switch a field off.
def LeavesOut (projection : Document) : Prop :=
  ∀ entry ∈ projection, isSwitch entry.2 = true ∧ Selector.isTruthy entry.2 = false

-- The paths that such a projection removes, the identifier last.
def leftOutPaths (projection : Document) : List String :=
  projection.keys.filter (· != "_id") ++ if "_id" ∈ projection.keys then ["_id"] else []

theorem mem_leftOutPaths_iff {path : String} : path ∈ leftOutPaths projection ↔ path ∈ projection.keys := by
  unfold leftOutPaths
  by_cases hid : path = "_id"
  · subst hid
    by_cases hmem : "_id" ∈ projection.keys <;> simp [hmem]
  · by_cases hmem : "_id" ∈ projection.keys <;> simp [hmem, hid]

theorem selectionOf_leavesOut (h : LeavesOut projection) (d : Document) :
    selectionOf d projection = { withId := decide ("_id" ∉ projection.keys),
                                 leftOut := projection.keys.filter (· != "_id") } := by
  have hfrom : ∀ s : Selection, projection.foldl (fun s entry => s.add d entry.1 entry.2) s =
      { s with withId := s.withId && decide ("_id" ∉ projection.keys),
               leftOut := s.leftOut ++ projection.keys.filter (· != "_id") } := by
    induction projection with
    | nil => simp [OrderedMap.keys]
    | cons entry rest ih =>
        intro s
        obtain ⟨⟨hswitch, hoff⟩, hrest⟩ := List.forall_mem_cons.mp h
        have hkeys : OrderedMap.keys (entry :: rest) = entry.1 :: OrderedMap.keys rest := rfl
        rw [List.foldl_cons, ih hrest, hkeys]
        by_cases hid : entry.1 = "_id"
        · simp [Selection.add, hid, hswitch, hoff]
        · have hid' : ¬ "_id" = entry.1 := fun he => hid he.symm
          simp [Selection.add, hid, hid', hswitch, hoff]
  rw [selectionOf, hfrom]
  simp

theorem unsetPath_id (d : Document) : (d.unsetPath "_id").1 = d.erase "_id" := by
  rw [unsetPath, Path.segments_id]
  rfl

theorem project_leavesOut (h : LeavesOut projection) (d : Document) :
    project projection d = .ok (d.withoutPaths (leftOutPaths projection)) := by
  simp only [project, selectionOf_leavesOut h, leftOutPaths]
  by_cases hid : "_id" ∈ projection.keys <;> simp [hid, withoutPaths, unsetPath_id]

theorem withoutPaths_spares (paths : List String) (d : Document) : Spares paths d (d.withoutPaths paths) := by
  induction paths generalizing d with
  | nil => exact Spares.refl d
  | cons path rest ih =>
      have hfirst : Spares [path] d (d.unsetPath path).1 := (editedAt_drop d (Path.segments path)).spares
      exact hfirst.trans (ih (d.unsetPath path).1)

end Projection

-- Whether what is read beside all of some paths stays as it was exactly if it was nothing or no array
-- is on the way both to it and to one of the paths.
def LosesInArrays (paths : List String) (d left : Document) : Prop :=
  ∀ q, (∀ p ∈ paths, Path.Apart p q) →
    (left.getPath? q = d.getPath? q ↔ d.getPath? q = none ∨ ∀ p ∈ paths, ¬ d.MeetInArray p q)

-- What is left of a document from which a path has been removed. The identifier stays in an update.
structure Removed (p : String) (d left : Document) : Prop where
  gone : p ≠ "_id" → (Value.document d).WellFormed → left.getPath? p = none
  others : LosesInArrays [p] d left
  parents : (Value.document left).DocumentsTo (Path.segments p)
  unchanged : d.getPath? p = none → (left = d ↔ (Value.document d).DocumentsTo (Path.segments p))

section

variable {p : String} (hp : Path.Readable p)

include hp

theorem removed_unsetPath (d : Document) : Removed p d (d.unsetPath p).1 where
  gone _ hd := by
    rw [getPath?_of_readable hp]
    exact descend_drop_self hd (Path.segments_ne_nil p)
  others _ hapart := ((editedAt_drop d (Path.segments p)).spares).getPath?_iff hapart
  parents := documentsTo_drop d (Path.segments p)
  unchanged hnone := by
    rw [getPath?_of_readable hp] at hnone
    have hsame : (d.unsetPath p).1 = d ↔ _ := drop_eq_self_iff d (Path.segments_ne_nil p)
    rw [hsame]
    exact and_iff_right hnone

theorem removed_unset (d : Document) (v : Value) :
    ∃ left changed, applyOperator "$unset" p v d = .ok (left, changed) ∧ Removed p d left := by
  rw [applyOperator_unset]
  by_cases hid : p = "_id"
  · subst hid
    have hdocuments : (Value.document d).DocumentsTo (Path.segments "_id") := by
      rw [Path.segments_id]
      exact Value.documentsTo_singleton d "_id"
    have hspares : Spares ["_id"] d d := by
      apply EditedAt.spares
      rw [Path.segments_id]
      exact editedAt_refl d "_id"
    refine ⟨d, false, by simp, fun hne => absurd rfl hne, fun _ hapart => hspares.getPath?_iff hapart,
      hdocuments, fun _ => ?_⟩
    exact ⟨fun _ => hdocuments, fun _ => rfl⟩
  · exact ⟨(d.unsetPath p).1, (d.unsetPath p).2, by simp [hid], removed_unsetPath hp d⟩

-- A removal takes its turn among the fields and operators of an update.
theorem applyUpdate_unset {before d : Document} {changed : Bool}
    (hbefore : (before.applyUpdate d).outcome = .ok changed) (earlier later rest : Document) (v : Value) :
    ∃ left, Removed p (applyFields "$unset" earlier (before.applyUpdate d).document).document left ∧
      (applyUpdate (before ++ ("$unset", .document (earlier ++ (p, v) :: later)) :: rest) d).document =
        (applyUpdate (("$unset", .document later) :: rest) left).document := by
  obtain ⟨own, hearlier⟩ := applyFields_unset_ok earlier (before.applyUpdate d).document
  obtain ⟨all, hall⟩ := applyFields_unset_ok (earlier ++ (p, v) :: later) (before.applyUpdate d).document
  obtain ⟨left, _, hstep, hremoved⟩ :=
    removed_unset hp (applyFields "$unset" earlier (before.applyUpdate d).document).document v
  obtain ⟨more, hlater⟩ := applyFields_unset_ok later left
  refine ⟨left, hremoved, ?_⟩
  rw [applyUpdate_append hbefore, applyUpdate_cons hall, applyUpdate_cons hlater, applyFields_append hearlier,
    applyFields, hstep]

theorem project_leavesOut_single (d : Document) {off : Value} (h : LeavesOut [(p, off)]) :
    ∃ left, project [(p, off)] d = .ok left ∧ Removed p d left := by
  refine ⟨(d.unsetPath p).1, ?_, removed_unsetPath hp d⟩
  have hpaths : leftOutPaths [(p, off)] = [p] := by
    by_cases hid : p = "_id"
    · simp [leftOutPaths, OrderedMap.keys, hid]
    · have hid' : ¬ "_id" = p := fun he => hid he.symm
      simp [leftOutPaths, OrderedMap.keys, hid, hid']
  rw [project_leavesOut h, hpaths]
  rfl

-- A path is removed when its turn comes in an update, whatever stands before and after it, and by a
-- projection; and what is read beside all paths of an update or of such a projection is lost in
-- arrays only.
theorem removal_effect :
    (∀ {before d : Document} {changed : Bool}, (before.applyUpdate d).outcome = .ok changed →
      ∀ (earlier later rest : Document) (v : Value), ∃ left,
        Removed p (applyFields "$unset" earlier (before.applyUpdate d).document).document left ∧
        (applyUpdate (before ++ ("$unset", .document (earlier ++ (p, v) :: later)) :: rest) d).document =
          (applyUpdate (("$unset", .document later) :: rest) left).document) ∧
    (∀ {update d : Document} {changed : Bool}, (update.applyUpdate d).outcome = .ok changed →
      LosesInArrays update.paths d (update.applyUpdate d).document) ∧
    (∀ (d : Document) {off : Value}, LeavesOut [(p, off)] →
      ∃ left, project [(p, off)] d = .ok left ∧ Removed p d left) ∧
    ∀ (d : Document) {projection : Document}, LeavesOut projection →
      ∃ left, project projection d = .ok left ∧ LosesInArrays projection.keys d left := by
  refine ⟨fun hbefore earlier later rest v => applyUpdate_unset hp hbefore earlier later rest v,
    fun h q hapart => (applyUpdate_spares h).getPath?_iff hapart,
    fun d off h => project_leavesOut_single hp d h, fun d projection h => ?_⟩
  refine ⟨_, project_leavesOut h d, fun q hapart => ?_⟩
  have hsame : ∀ path, path ∈ leftOutPaths projection ↔ path ∈ projection.keys := fun _ => mem_leftOutPaths_iff
  have hiff := (withoutPaths_spares (leftOutPaths projection) d).getPath?_iff (q := q)
  simp only [hsame] at hiff
  exact hiff hapart

end

-- A pupil has no nickname and need not get one; a name is no document and has to become one; and the
-- second grade goes with the first.
theorem removal_effect_report :
    project [("pupil.nick", .boolean false)] report = .ok report ∧
      project [("pupil.name.first", .boolean false)] report ≠ .ok report ∧
      (applyUpdate [("$unset", .document [("pupil.grades.0", .null)])] report).document.getPath?
        "pupil.grades.1" ≠ report.getPath? "pupil.grades.1" := by
  have hnick : Path.Readable "pupil.nick" := ⟨rfl, by decide, by decide⟩
  have hfirst : Path.Readable "pupil.name.first" := ⟨rfl, by decide, by decide⟩
  have hgrade : Path.Readable "pupil.grades.0" := ⟨rfl, by decide, by decide⟩
  have hoff : ∀ path, LeavesOut [(path, .boolean false)] := fun path entry hentry => by
    rw [List.mem_singleton.mp hentry]
    exact ⟨rfl, rfl⟩
  refine ⟨?_, fun hsame => ?_, fun hsame => ?_⟩
  · obtain ⟨left, hleft, hremoved⟩ := (removal_effect hnick).2.2.1 report (hoff "pupil.nick")
    have hdocuments : (Value.document report).DocumentsTo ["pupil", "nick"] :=
      (Value.documentsTo_cons_iff (by simp)).mpr ⟨_, rfl, Value.documentsTo_singleton _ "nick"⟩
    rw [hleft, (hremoved.unchanged rfl).mpr hdocuments]
  · obtain ⟨left, hleft, hremoved⟩ := (removal_effect hfirst).2.2.1 report (hoff "pupil.name.first")
    rw [hleft] at hsame
    have hdocuments := (hremoved.unchanged rfl).mp (Except.ok.inj hsame)
    obtain ⟨fields, hfields⟩ := hdocuments ["pupil", "name"] (by decide) (by decide)
    cases hfields
  · have hmeet : report.MeetInArray "pupil.grades.0" "pupil.grades.1" :=
      ⟨["pupil", "grades"], _, by decide, by decide, rfl⟩
    have hok : (applyUpdate [("$unset", .document [("pupil.grades.0", .null)])] report).outcome = .ok false := rfl
    have hlost := (removal_effect hgrade).2.1 hok "pupil.grades.1"
      (List.forall_mem_singleton.mpr ⟨by decide, by decide⟩)
    rcases hlost.mp hsame with hnone | hapart
    · cases hnone
    · exact hapart "pupil.grades.0" List.mem_cons_self hmeet

-- Removing an item of a list takes the next one with it; removing what is not there adds a field.
theorem removal_not_harmless :
    ¬ (∀ (d : Document) (p q : String) (v : Value), Path.Readable p → Path.Apart p q →
      (applyUpdate [("$unset", .document [(p, v)])] d).document.getPath? q = d.getPath? q) ∧
    ¬ (∀ (d : Document) (p : String) (v : Value), Path.Readable p → d.getPath? p = none →
      (applyUpdate [("$unset", .document [(p, v)])] d).document = d) ∧
    ¬ ∀ (d : Document) (p : String), Path.Readable p → d.getPath? p = none →
      project [(p, .boolean false)] d = .ok d := by
  refine ⟨fun h => ?_, fun h => ?_, fun h => ?_⟩
  · have hitem := h [("a", .array [.int32 1, .int32 2])] "a.0" "a.1" .null ⟨rfl, by decide, by decide⟩
      ⟨by decide, by decide⟩
    cases hitem
  · have hfield := h [] "a.b" .null ⟨rfl, by decide, by decide⟩ rfl
    cases hfield
  · have hfield := h [] "a.b" ⟨rfl, by decide, by decide⟩ rfl
    cases hfield

end DocStore.Document
