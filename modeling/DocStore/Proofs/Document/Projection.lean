import DocStore.Document.Projection
import DocStore.Proofs.Document.Locality
import DocStore.Proofs.OrderedMap

namespace DocStore

namespace Document

theorem mem_keys_insert {d : Document} {key other : String} {v : Value} (h : other ∈ (d.insert key v).keys) :
    other ∈ d.keys ∨ other = key := by
  rw [OrderedMap.keys_insert] at h
  split at h
  · exact .inl h
  · simpa using h

-- Writing along a way adds no field but the one that the way begins with.
theorem mem_keys_put {d : Document} {segments : List String} {v : Value} {key : String}
    (h : key ∈ (d.put segments v).1.keys) : key ∈ d.keys ∨ segments.head? = some key := by
  obtain _ | ⟨first, rest⟩ := segments
  · exact .inl h
  · obtain _ | ⟨next, more⟩ := rest <;> exact (mem_keys_insert h).imp_right fun hkey => by rw [hkey]; rfl

theorem mem_keys_withPaths {fields : List (String × Option Value)} {d : Document} {key : String}
    (h : key ∈ (d.withPaths fields).keys) :
    key ∈ d.keys ∨ ∃ field ∈ fields, (Path.segments field.1).head? = some key := by
  induction fields generalizing d with
  | nil => exact .inl h
  | cons field rest ih =>
      obtain ⟨target, found⟩ := field
      rcases ih h with hkey | ⟨other, hother, hkey⟩
      · cases found with
        | none => exact .inl hkey
        | some v =>
            rcases mem_keys_put hkey with hkey | hkey
            · exact .inl hkey
            · exact .inr ⟨(target, some v), List.mem_cons_self, hkey⟩
      · exact .inr ⟨other, List.mem_cons_of_mem _ hother, hkey⟩

-- Whether no array is on the way, short of its end.
def ClearTo (d : Document) (way : List String) : Prop :=
  ∀ lead items, lead <+: way → lead ≠ way → (Value.document d).descend lead ≠ some (.array items)

-- On the way to what is written there are documents.
theorem descend_put_of_prefix {lead way : List String} (h : lead <+: way) (hne : lead ≠ way) (d : Document)
    (v : Value) : ∃ inner, (Value.document (d.put way v).1).descend lead = some (.document inner) := by
  induction lead generalizing d way with
  | nil => exact ⟨_, rfl⟩
  | cons segment rest ih =>
      obtain ⟨more, rfl⟩ := h
      have hrest : rest ≠ rest ++ more := fun he => hne (congrArg (segment :: ·) he)
      have hbelow : rest ++ more ≠ [] := by
        intro he
        rw [List.append_eq_nil_iff] at he
        exact hrest (by rw [he.1, he.2, List.nil_append])
      rw [List.cons_append, put_cons d segment hbelow, Value.descend_document_cons,
        OrderedMap.get?_insert_self, Option.bind_some]
      exact ih (List.prefix_append rest more) hrest (d.subdocument segment)

namespace ClearTo

variable {d : Document} {way other : List String}

theorem put_self (d : Document) (way : List String) (v : Value) : ClearTo (d.put way v).1 way := by
  intro lead items hlead hne harray
  obtain ⟨inner, hinner⟩ := descend_put_of_prefix hlead hne d v
  rw [hinner] at harray
  cases harray

theorem not_meetInArray (h : d.ClearTo way) (hother : ¬ way <+: other) :
    ¬ (Value.document d).MeetInArray other way := by
  rintro ⟨lead, items, hlead, hway, harray⟩
  refine h lead items hway ?_ harray
  rintro rfl
  exact hother hlead

theorem put_of_apart (h : d.ClearTo way) (hother : ¬ other <+: way) (v : Value) :
    ClearTo (d.put other v).1 way := by
  intro lead items hlead hne harray
  by_cases hcommon : lead <+: other
  · have hshort : lead ≠ other := by
      rintro rfl
      exact hother hlead
    obtain ⟨inner, hinner⟩ := descend_put_of_prefix hcommon hshort d v
    rw [hinner] at harray
    cases harray
  · have hlonger : ¬ other <+: lead := fun hle => hother (hle.trans hlead)
    obtain ⟨hgone, hkept⟩ := descend_put_of_apart hlonger hcommon d v
    by_cases hmeet : (Value.document d).MeetInArray other lead
    · rw [hgone hmeet] at harray
      cases harray
    · rw [hkept hmeet] at harray
      exact h lead items hlead hne harray

end ClearTo

-- A field that is written into a row is read there at the end, if nothing else goes its way.
theorem getPath?_withPaths {target : String} {found : Option Value} (htarget : Path.Readable target)
    {fields : List (String × Option Value)}
    (hfields : ∀ field ∈ fields, field = (target, found) ∨ Path.Apart field.1 target) {d : Document}
    (hclear : d.ClearTo (Path.segments target)) (hbefore : d.getPath? target = none ∨ d.getPath? target = found)
    (hmem : (target, found) ∈ fields ∨ d.getPath? target = found) :
    (d.withPaths fields).getPath? target = found := by
  induction fields generalizing d with
  | nil => exact hmem.resolve_left List.not_mem_nil
  | cons field rest ih =>
      obtain ⟨hfirst, hrest⟩ := List.forall_mem_cons.mp hfields
      by_cases hown : field = (target, found)
      · subst hown
        cases found with
        | none => exact ih hrest hclear hbefore (.inr (hbefore.elim id id))
        | some v =>
            have hwritten := getPath?_setPath htarget d v
            exact ih hrest (ClearTo.put_self d _ v) (.inr hwritten) (.inr hwritten)
      · have hapart := hfirst.resolve_left hown
        have hlater : (target, found) ∈ rest ∨ d.getPath? target = found :=
          hmem.imp_left fun h => (List.mem_cons.mp h).resolve_left (Ne.symm hown)
        obtain ⟨other, written⟩ := field
        cases written with
        | none => exact ih hrest hclear hbefore hlater
        | some v =>
            have hsame := getPath?_setPath_of_apart htarget hapart (hclear.not_meetInArray hapart.2) v
            rw [← hsame] at hbefore hlater
            exact ih hrest (hclear.put_of_apart hapart.1 v) hbefore hlater

-- The path at which an entry of a projection looks for its value.
def sourceOf (entry : String × Value) : String :=
  match entry.2 with
  | .string text => (reference? text).getD text
  | _ => entry.1

-- Whether all entries show a value, that of their own path or that of another one.
def Including (projection : Document) : Prop :=
  ∀ entry ∈ projection, entry.2 = .int32 1 ∨ ∃ source, entry.2 = .string ("$" ++ source)

theorem reference?_append (source : String) : reference? ("$" ++ source) = some source := by
  simp [reference?]

def isIdSwitch (entry : String × Value) : Bool := entry.1 == "_id" && isSwitch entry.2

-- What an including projection shows of a document.
def shownOf (d projection : Document) : List (String × Option Value) :=
  (projection.filter (!isIdSwitch ·)).map fun entry => (entry.1, d.getPath? (sourceOf entry))

theorem add_including {entry : String × Value}
    (h : entry.2 = .int32 1 ∨ ∃ source, entry.2 = .string ("$" ++ source)) (d : Document) {s : Selection}
    (hs : s.withId = true) :
    s.add d entry.1 entry.2 = { s with shown := s.shown ++ d.shownOf [entry] } := by
  obtain ⟨withId, shown, leftOut⟩ := s
  cases hs
  obtain ⟨target, spec⟩ := entry
  rcases h with rfl | ⟨source, rfl⟩
  · have htruthy : Selector.isTruthy (.int32 1) = true := by decide +kernel
    by_cases hid : target = "_id"
    · simp [Selection.add, isSwitch, htruthy, shownOf, isIdSwitch, hid]
    · simp [Selection.add, isSwitch, htruthy, shownOf, isIdSwitch, hid, Selection.show, sourceOf]
  · simp [Selection.add, isSwitch, shownOf, isIdSwitch, Selection.show, sourceOf, reference?_append]

theorem selectionOf_including {projection : Document} (h : Including projection) (d : Document) :
    selectionOf d projection = { shown := d.shownOf projection } := by
  have hfrom : ∀ s : Selection, s.withId = true →
      projection.foldl (fun s entry => s.add d entry.1 entry.2) s =
        { s with shown := s.shown ++ d.shownOf projection } := by
    induction projection with
    | nil => simp [shownOf]
    | cons entry rest ih =>
        intro s hs
        obtain ⟨hentry, hrest⟩ := List.forall_mem_cons.mp h
        have hsplit : d.shownOf (entry :: rest) = d.shownOf [entry] ++ d.shownOf rest := by
          simp [shownOf, List.filter_cons]
          split <;> simp
        rw [List.foldl_cons, add_including hentry d hs, ih hrest]
        · rw [List.append_assoc, ← hsplit]
        · exact hs
  rw [selectionOf, hfrom _ rfl]
  rfl

-- Only the identifier switched on shows nothing of its own.
theorem shownOf_eq_nil {projection : Document} (h : Including projection) (hd : projection.Distinct)
    (hne : projection ≠ []) {d : Document} (hnone : d.shownOf projection = []) :
    projection = [("_id", .int32 1)] := by
  have hswitch : ∀ entry ∈ projection, entry = ("_id", .int32 1) := by
    intro entry hentry
    have hid : isIdSwitch entry = true := by
      simpa using List.filter_eq_nil_iff.mp (List.map_eq_nil_iff.mp hnone) entry hentry
    obtain ⟨target, spec⟩ := entry
    simp only [isIdSwitch, Bool.and_eq_true, beq_iff_eq] at hid
    obtain ⟨rfl, hspec⟩ := hid
    rcases h _ hentry with rfl | ⟨source, rfl⟩
    · rfl
    · cases hspec
  obtain _ | ⟨first, _ | ⟨second, rest⟩⟩ := projection
  · exact absurd rfl hne
  · rw [hswitch first List.mem_cons_self]
  · have hfirst := hswitch first List.mem_cons_self
    have hsecond := hswitch second (List.mem_cons_of_mem _ List.mem_cons_self)
    rw [hfirst, hsecond] at hd
    simp [OrderedMap.Distinct, OrderedMap.keys] at hd

-- A row before anything is shown: it has at most the identifier.
def rowStart (d : Document) : Document :=
  match d.get? "_id" with
  | some id => [("_id", id)]
  | none => []

theorem project_of_shown {projection : Document} (h : Including projection) {d : Document}
    (hshown : d.shownOf projection ≠ []) :
    project projection d = .ok (d.rowStart.withPaths (d.shownOf projection)) := by
  have hsome : (d.shownOf projection).isEmpty = false := by simpa using hshown
  simp only [project, selectionOf_including h, hsome, List.isEmpty_nil, Bool.not_true, Bool.and_false]
  unfold rowStart
  cases d.get? "_id" <;> rfl

theorem project_id (d : Document) : project [("_id", .int32 1)] d = .ok d := by
  have hincluding : Including [("_id", .int32 1)] := by simp [Including]
  simp only [project, selectionOf_including hincluding]
  rfl

theorem keys_rowStart {d : Document} {key : String} (h : key ∈ d.rowStart.keys) : key = "_id" := by
  unfold rowStart at h
  split at h
  · simpa [OrderedMap.keys] using h
  · cases h

-- Apart from the identifier there is nothing in the way yet.
theorem rowStart_of_apart (d : Document) {target : String} (htarget : Path.Readable target)
    (h : Path.Apart target "_id") :
    d.rowStart.ClearTo (Path.segments target) ∧ d.rowStart.getPath? target = none := by
  obtain ⟨first, more, hsegments⟩ := List.exists_cons_of_ne_nil (Path.segments_ne_nil target)
  have hfirst : first ≠ "_id" := by
    rintro rfl
    refine h.2 ?_
    rw [hsegments]
    exact ⟨more, rfl⟩
  have hnothing : ∀ rest, (Value.document d.rowStart).descend (first :: rest) = none := by
    intro rest
    have hget : d.rowStart.get? first = none :=
      OrderedMap.get?_eq_none_iff.mpr fun hkey => hfirst (keys_rowStart hkey)
    rw [Value.descend_document_cons, hget]
    rfl
  refine ⟨fun lead items hlead _ harray => ?_, ?_⟩
  · rw [hsegments] at hlead
    obtain _ | ⟨key, rest⟩ := lead
    · cases harray
    · rw [(List.cons_prefix_cons.mp hlead).1, hnothing] at harray
      cases harray
  · rw [getPath?_of_readable htarget, hsegments]
    exact hnothing more

-- What an including projection makes of a document: its identifier and the fields asked for, each
-- with its value where nothing else goes its way. The identifier asked for alone is no field,
-- and leaves the document as it is.
structure IsRow (projection d row : Document) : Prop where
  whole : projection = [("_id", .int32 1)] → row = d
  keys : projection ≠ [("_id", .int32 1)] → ∀ key ∈ row.keys,
    key = "_id" ∨ ∃ entry ∈ projection, (Path.segments entry.1).head? = some key
  values : ∀ entry ∈ projection, Path.Readable entry.1 → Path.Apart entry.1 "_id" →
    (∀ other ∈ projection, other = entry ∨ Path.Apart other.1 entry.1) →
    row.getPath? entry.1 = d.getPath? (sourceOf entry)

theorem project_including {projection : Document} (h : Including projection) (hd : projection.Distinct)
    (hne : projection ≠ []) (d : Document) : ∃ row, project projection d = .ok row ∧ IsRow projection d row := by
  by_cases hid : projection = [("_id", .int32 1)]
  · subst hid
    refine ⟨d, project_id d, ⟨fun _ => rfl, fun hother => absurd rfl hother, ?_⟩⟩
    intro entry hentry _ hapart
    rw [List.mem_singleton.mp hentry] at hapart
    exact absurd List.prefix_rfl hapart.1
  · have hshown : d.shownOf projection ≠ [] := fun hnone => hid (shownOf_eq_nil h hd hne hnone)
    refine ⟨_, project_of_shown h hshown, ⟨fun hown => absurd hown hid, fun _ key hkey => ?_, ?_⟩⟩
    · rcases mem_keys_withPaths hkey with hstart | ⟨field, hfield, hfirst⟩
      · exact .inl (keys_rowStart hstart)
      · obtain ⟨entry, hentry, rfl⟩ := List.mem_map.mp hfield
        exact .inr ⟨entry, List.mem_of_mem_filter hentry, hfirst⟩
    · intro entry hentry htarget hapart hothers
      obtain ⟨hclear, hnothing⟩ := rowStart_of_apart d htarget hapart
      refine getPath?_withPaths htarget ?_ hclear (.inl hnothing) (.inl ?_)
      · intro field hfield
        obtain ⟨other, hother, rfl⟩ := List.mem_map.mp hfield
        rcases hothers other (List.mem_of_mem_filter hother) with rfl | haway
        · exact .inl rfl
        · exact .inr haway
      · refine List.mem_map.mpr ⟨entry, List.mem_filter.mpr ⟨hentry, ?_⟩, rfl⟩
        have hname : entry.1 ≠ "_id" := by
          intro hname
          rw [hname] at hapart
          exact hapart.1 List.prefix_rfl
        simp [isIdSwitch, hname]

end Document

end DocStore
