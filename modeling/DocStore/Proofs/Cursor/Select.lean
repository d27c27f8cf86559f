import DocStore.Cursor.Open
import DocStore.Proofs.Client
import DocStore.Proofs.Document.Projection
import DocStore.Proofs.Outcome
import DocStore.Proofs.Store.View
import Mathlib.Data.List.Forall2

namespace DocStore

namespace GroupedQuery

open Document (Including sourceOf)

-- Whether the entry of a select list shows the value at the source under the target.
def Shows (entry target source : String) : Prop :=
  (selectEntry entry = .ok (some (target, .int32 1)) ∧ source = target) ∨
    selectEntry entry = .ok (some (target, reference source))

theorem selectEntry_cases {entry : String} {e : String × Value} (h : selectEntry entry = .ok (some e)) :
    e.2 = .int32 1 ∨ ∃ source, e.2 = .string ("$" ++ source) := by
  unfold selectEntry at h
  extract_lets field at h
  split at h
  · cases h
  · split at h
    · cases h
      exact .inl rfl
    · next source label _ =>
        extract_lets source label at h
        split at h
        · cases h
        · cases h
          exact .inr ⟨source, rfl⟩

theorem shows_of_selectEntry {entry : String} {e : String × Value} (h : selectEntry entry = .ok (some e)) :
    Shows entry e.1 (sourceOf e) := by
  obtain ⟨target, spec⟩ := e
  rcases selectEntry_cases h with rfl | ⟨source, rfl⟩
  · exact .inl ⟨h, rfl⟩
  · refine .inr (h.trans ?_)
    simp [sourceOf, Document.reference?_append, reference]

theorem exists_selectEntry {entry target source : String} (h : Shows entry target source) :
    ∃ e, selectEntry entry = .ok (some e) ∧ e.1 = target ∧ sourceOf e = source := by
  rcases h with ⟨hentry, rfl⟩ | hentry
  · exact ⟨_, hentry, rfl, rfl⟩
  · refine ⟨_, hentry, rfl, ?_⟩
    simp [sourceOf, Document.reference?_append, reference]

-- What the entries of a select list put into the projection.
def selectedEntries (select : List String) : List (String × Value) :=
  select.filterMap fun entry => (selectEntry entry).toOption.join

theorem mem_selectedEntries_iff {select : List String} {e : String × Value} :
    e ∈ selectedEntries select ↔ ∃ entry ∈ select, selectEntry entry = .ok (some e) := by
  have hjoin : ∀ entry, (selectEntry entry).toOption.join = some e ↔ selectEntry entry = .ok (some e) := by
    intro entry
    cases selectEntry entry <;> simp [Except.toOption]
  simp [selectedEntries, hjoin]

theorem projectionFrom_eq {d p : Document} {select : List String} (h : projectionFrom d select = .ok p) :
    p = (selectedEntries select).foldl (fun d e => OrderedMap.insert d e.1 e.2) d := by
  induction select generalizing d with
  | nil =>
      cases h
      rfl
  | cons entry rest ih =>
      unfold projectionFrom at h
      cases hentry : selectEntry entry with
      | error e => simp [hentry] at h
      | ok selected =>
          cases selected with
          | none =>
              rw [hentry] at h
              rw [ih h]
              simp [selectedEntries, hentry, Except.toOption]
          | some e =>
              rw [hentry] at h
              rw [ih h]
              simp [selectedEntries, hentry, Except.toOption]

section

variable {g : GroupedQuery} {p : Document} (h : g.projection = .ok (some p))

include h

theorem projection_eq :
    p = (selectedEntries g.select).foldl (fun d e => OrderedMap.insert d e.1 e.2) [] ∧ p ≠ [] := by
  obtain ⟨all, hall, hunless⟩ := Except.map_eq_ok_iff.mp h
  unfold unlessEmpty at hunless
  split at hunless
  · cases hunless
  · next hne =>
      cases hunless
      exact ⟨projectionFrom_eq hall, by simpa using hne⟩

theorem distinct_projection : p.Distinct := by
  rw [(projection_eq h).1]
  exact OrderedMap.distinct_nil.foldl_insert Prod.fst Prod.snd _

theorem exists_entry_of_mem_projection {e : String × Value} (he : e ∈ p) :
    ∃ entry ∈ g.select, selectEntry entry = .ok (some e) := by
  rw [(projection_eq h).1] at he
  rcases OrderedMap.mem_foldl_insert OrderedMap.distinct_nil he with hnil | ⟨selected, hselected, rfl⟩
  · cases hnil
  · exact mem_selectedEntries_iff.mp hselected

theorem including_projection : Including p := by
  intro e he
  obtain ⟨entry, _, hentry⟩ := exists_entry_of_mem_projection h he
  exact selectEntry_cases hentry

-- A target that is selected is in the projection, as the last entry for it has it.
theorem exists_mem_projection {entry : String} {e : String × Value} (hmem : entry ∈ g.select)
    (hentry : selectEntry entry = .ok (some e)) : ∃ v, (e.1, v) ∈ p := by
  have hselected : e ∈ selectedEntries g.select := mem_selectedEntries_iff.mpr ⟨entry, hmem, hentry⟩
  have hfound : ((selectedEntries g.select).reverse.find? (·.1 == e.1)).isSome = true :=
    List.find?_isSome.mpr ⟨e, List.mem_reverse.mpr hselected, by simp⟩
  obtain ⟨last, hlast⟩ := Option.isSome_iff_exists.mp hfound
  refine ⟨last.2, OrderedMap.mem_of_get? ?_⟩
  rw [(projection_eq h).1, OrderedMap.get?_foldl_insert, hlast]
  rfl

end

-- A row with what was selected: no field but the identifier and those that the targets begin with, and
-- under each target that no other one leads through or below the value of its source.
structure Selected (select : List String) (d row : Document) : Prop where
  keys : ∀ key ∈ row.keys, key = "_id" ∨
    ∃ entry ∈ select, ∃ target source, Shows entry target source ∧ (Path.segments target).head? = some key
  values : ∀ entry ∈ select, ∀ target source, Shows entry target source → Path.Readable target →
    Path.Apart target "_id" →
    (∀ other ∈ select, ∀ target' source', Shows other target' source' →
      (target' = target ∧ source' = source) ∨ Path.Apart target' target) →
    row.getPath? target = d.getPath? source

theorem selected_of_isRow {g : GroupedQuery} {p d row : Document} (h : g.projection = .ok (some p))
    (hfield : p ≠ [("_id", .int32 1)]) (hrow : Document.IsRow p d row) : Selected g.select d row where
  keys key hkey := by
    rcases hrow.keys hfield key hkey with hid | ⟨e, he, hfirst⟩
    · exact .inl hid
    · obtain ⟨entry, hmem, hentry⟩ := exists_entry_of_mem_projection h he
      exact .inr ⟨entry, hmem, e.1, sourceOf e, shows_of_selectEntry hentry, hfirst⟩
  values entry hmem target source hshows htarget hid hothers := by
    obtain ⟨e, hentry, rfl, rfl⟩ := exists_selectEntry hshows
    obtain ⟨v, hv⟩ := exists_mem_projection h hmem hentry
    -- whatever entry came last for the target, it shows the same source
    have hlast : ∀ other ∈ p, (other.1 = e.1 ∧ sourceOf other = sourceOf e) ∨ Path.Apart other.1 e.1 := by
      intro other hother
      obtain ⟨from', hfrom, hselected⟩ := exists_entry_of_mem_projection h hother
      exact hothers from' hfrom _ _ (shows_of_selectEntry hselected)
    have hsource : sourceOf (e.1, v) = sourceOf e := by
      rcases hlast _ hv with hsame | hapart
      · exact hsame.2
      · exact absurd List.prefix_rfl hapart.1
    rw [← hsource]
    refine hrow.values (e.1, v) hv htarget hid fun other hother => ?_
    rcases hlast other hother with hsame | hapart
    · left
      have hname : other = (e.1, other.2) := by rw [← hsame.1]
      rw [hname] at hother ⊢
      have hboth := ((distinct_projection h).get?_of_mem hother).symm.trans ((distinct_projection h).get?_of_mem hv)
      rw [Option.some.inj hboth]
    · exact .inr hapart

end GroupedQuery

namespace Document

theorem projectAll_including {projection : Document} (h : Including projection) (hd : projection.Distinct)
    (hne : projection ≠ []) (docs : List Document) :
    ∃ rows, projectAll projection docs = .ok rows ∧ List.Forall₂ (IsRow projection) docs rows := by
  induction docs with
  | nil => exact ⟨[], rfl, .nil⟩
  | cons d rest ih =>
      obtain ⟨row, hrow, hisRow⟩ := project_including h hd hne d
      obtain ⟨rows, hrows, hrest⟩ := ih
      refine ⟨row :: rows, ?_, .cons hisRow hrest⟩
      rw [projectAll, hrow, hrows]
      rfl

end Document

namespace Collection

-- A projection is applied to what is found without it.
theorem find_projected {selector p : Document} {options : FindOptions} {docs found rows : List Document}
    (hplain : options.projection = none) (hfound : find selector options docs = .ok found)
    (hrows : p.projectAll found = .ok rows) :
    find selector { options with projection := some p } docs = .ok rows := by
  obtain ⟨selected, hselected, hsorted⟩ := Except.bind_eq_ok_iff.mp hfound
  obtain ⟨inOrder, hinOrder, hlimited⟩ := Except.bind_eq_ok_iff.mp hsorted
  rw [hplain] at hlimited
  rw [← Except.ok.inj hlimited] at hrows
  rw [find, hselected]
  simp only [bind, Except.bind, hinOrder]
  exact hrows

end Collection

namespace Cursor

section

variable {scope : Scope} {clauses : List Clause} {client : Client} {g : GroupedQuery}
  {selector p : Document} {found : List Document}

-- What a query that selects fields finds without them, as the options of its search have it.
def unprojected (g : GroupedQuery) : FindOptions := { sort := g.sort, skip := g.skip, limit := g.take }

theorem ofQuery_find {rows : List Document} (hprepare : prepare scope clauses = .ok (g, selector))
    (haggregate : g.aggregate = none) (hcommand : g.command = none) (hprojection : g.projection = .ok (some p))
    (hready : client.store.failing ≠ some "find")
    (hfound : client.store.findIn scope.session g.table selector { unprojected g with projection := some p } =
      .ok rows) :
    (ofQuery scope clauses client).1 = opened scope { rest := rows } (some (specOf g selector)) := by
  obtain ⟨data, hview, hfind⟩ := Except.bind_eq_ok_iff.mp hfound
  have hperform := Store.perform_find hview hready g.table selector { unprojected g with projection := some p }
  rw [hfind] at hperform
  obtain ⟨after, hissue⟩ : ∃ after, scope.issue "unable to find"
      (.find g.table selector { unprojected g with projection := some p }) client =
        (.ok { rest := rows }, after) := ⟨_, Scope.issue_of_ok hperform⟩
  have hopen : openFind scope g selector client =
      (.ok (opened scope { rest := rows } (some (specOf g selector))), after) := by
    rw [openFind, hprojection, ClientM.liftM_ok_bind]
    exact ClientM.bind_of_ok _ hissue
  have hmode : openAs scope g selector = (.find, openFind scope g selector) := by
    simp only [openAs, haggregate, hcommand]
  simp only [ofQuery, hprepare, hmode, hopen]

-- The rows of a query that selects fields have what was selected of the documents that are found, and
-- nothing else, unless the identifier is selected alone: then they are the documents as they are.
theorem ofQuery_select (hprepare : prepare scope clauses = .ok (g, selector))
    (haggregate : g.aggregate = none) (hcommand : g.command = none) (hprojection : g.projection = .ok (some p))
    (hready : client.store.failing ≠ some "find")
    (hfound : client.store.findIn scope.session g.table selector (unprojected g) = .ok found) :
    ∃ rows, (ofQuery scope clauses client).1 = opened scope { rest := rows } (some (specOf g selector)) ∧
      (p ≠ [("_id", .int32 1)] → List.Forall₂ (GroupedQuery.Selected g.select) found rows) ∧
      (p = [("_id", .int32 1)] → rows = found) := by
  obtain ⟨rows, hrows, hisRow⟩ := Document.projectAll_including (GroupedQuery.including_projection hprojection)
    (GroupedQuery.distinct_projection hprojection) (GroupedQuery.projection_eq hprojection).2 found
  obtain ⟨data, hview, hfind⟩ := Except.bind_eq_ok_iff.mp hfound
  have hprojected : client.store.findIn scope.session g.table selector
      { unprojected g with projection := some p } = .ok rows :=
    Except.bind_eq_ok_iff.mpr ⟨data, hview, Collection.find_projected rfl hfind hrows⟩
  refine ⟨rows, ofQuery_find hprepare haggregate hcommand hprojection hready hprojected, fun hfield => ?_,
    fun hid => ?_⟩
  · exact hisRow.imp fun d row hrow => GroupedQuery.selected_of_isRow hprojection hfield hrow
  · have hsame : List.Forall₂ Eq found rows := hisRow.imp fun d row hrow => (hrow.whole hid).symm
    rw [List.forall₂_eq_eq_eq] at hsame
    exact hsame.symm

end

def member : Document :=
  [("_id", .int32 1), ("name", .string "Ada"), ("dept", .document [("name", .string "eng"), ("floor", .int32 2)])]

def members : Client := { store := { committed := [("staff", [member])] } }

-- The identifier among other fields selects nothing but itself.
theorem ofQuery_select_members :
    let select := ["name", " dept.name:team", "_id"]
    ∃ rows, (ofQuery { config := {} } [.table "staff", .select select] members).1 =
        opened { config := {} } { rest := rows } (some ⟨"staff", []⟩) ∧
      List.Forall₂ (GroupedQuery.Selected select) [member] rows ∧
      rows = [[("_id", .int32 1), ("name", .string "Ada"), ("team", .string "eng")]] := by
  intro select
  obtain ⟨rows, hcursor, hselected, _⟩ := @ofQuery_select { config := {} } [.table "staff", .select select]
    members { table := "staff", select } []
    [("name", .int32 1), ("team", .string "$dept.name"), ("_id", .int32 1)] [member] rfl rfl rfl rfl
    (by decide) rfl
  have hfield : ([("name", .int32 1), ("team", .string "$dept.name"), ("_id", .int32 1)] : Document) ≠
      [("_id", .int32 1)] := by simp
  refine ⟨rows, hcursor, hselected hfield, ?_⟩
  cases hcursor
  rfl

-- Selected alone it comes with everything else.
theorem select_id_shows_all :
    (ofQuery { config := {} } [.table "staff", .select ["_id"]] members).1.stream = some { rest := [member] } ∧
      ¬ GroupedQuery.Selected ["_id"] member member := by
  refine ⟨rfl, fun h => ?_⟩
  have hname : "name" ∈ member.keys := by decide
  rcases h.keys "name" hname with hid | ⟨entry, hentry, target, source, hshows, hfirst⟩
  · exact absurd hid (by decide)
  · rw [List.mem_singleton.mp hentry] at hshows
    have hentry : GroupedQuery.selectEntry "_id" = .ok (some ("_id", .int32 1)) := rfl
    rcases hshows with ⟨hshows, _⟩ | hshows
    · rw [hentry] at hshows
      cases hshows
      exact absurd hfirst (by decide)
    · rw [hentry] at hshows
      cases hshows

end Cursor

end DocStore
