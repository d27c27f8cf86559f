import DocStore.Proofs.Collection.Emptying
import DocStore.Proofs.OrderedMap
import DocStore.Proofs.Store.Session
import Mathlib.Data.List.Induction

namespace DocStore

namespace Collections

-- The collections that hold a document, in the order of their names.
def inUse (data : Collections) : List String :=
  Store.sortedNames ((data.filter (!·.2.isEmpty)).map (·.1))

-- Whether every collection that is there holds a document.
def NoneEmpty (data : Collections) : Prop := ∀ entry ∈ data, entry.2 ≠ []

end Collections

namespace Store

-- The names in a reply that lists collections.
def listedNames (reply : Document) : List String :=
  (((reply.document? "cursor").bind (·.array? "firstBatch")).getD []).filterMap fun entry =>
    entry.document?.bind (·.string? "name")

-- What a command lists in a session or in none.
def listBy (s : Store) (command : Document) (session : Option SessionId) : Except StoreError (List String) :=
  (s.play { session, call := .runCommand command }).1.map listedNames

-- Whether a step is a write that is let in and leaves its collection without documents.
def LeavesEmpty (s : Store) (step : Step) : Prop :=
  step.failing ≠ some step.call.name ∧
    ∃ data name, s.view step.session = .ok data ∧ step.call.write?.map (·.1) = some name ∧
      step.call.Empties (s.facing step).fresh (data.documents name)

section

variable {s : Store} {step : Step}

theorem length_insertName (name : String) (names : List String) :
    (insertName name names).length = names.length + 1 := by
  induction names with
  | nil => rfl
  | cons other rest ih =>
      unfold insertName
      split <;> simp [ih]

theorem length_sortedNames (names : List String) : (sortedNames names).length = names.length := by
  induction names with
  | nil => rfl
  | cons name rest ih => simp [sortedNames, length_insertName, ← ih]

theorem listedNames_cursorReply (ns : String) (names : List String) :
    listedNames (cursorReply ns (names.map listing)) = names := by
  change (((names.map listing).map Value.document).filterMap fun entry =>
    entry.document?.bind (·.string? "name")) = names
  rw [List.map_map, List.filterMap_map]
  exact List.filterMap_some

theorem listBy_eq (s : Store) (session : Option SessionId) (arg : Value) (rest : Document) :
    s.listBy (("listCollections", arg) :: rest) session =
      (s.view session).map fun data => sortedNames data.keys := by
  have hready : ¬ (none : Option String) = some "run_command" := nofun
  unfold listBy
  rw [play_of_ready hready]
  change ((do return ("$cmd.listCollections", (sortedNames (← s.view session).keys).map listing)).map
    fun (name, docs) => cursorReply name docs).map listedNames = _
  cases s.view session with
  | error e => rfl
  | ok data => exact congrArg Except.ok (listedNames_cursorReply _ _)

-- A name that the one list leaves out makes it shorter.
theorem sortedNames_keys_eq_inUse_iff {data : Collections} :
    sortedNames data.keys = data.inUse ↔ data.NoneEmpty := by
  constructor
  · intro h
    have hlength := congrArg List.length h
    simp only [Collections.inUse, length_sortedNames, OrderedMap.keys, List.length_map] at hlength
    have hall := List.length_filter_eq_length_iff.mp hlength.symm
    exact fun entry hentry => by simpa using hall entry hentry
  · intro h
    have hall : data.filter (!·.2.isEmpty) = data :=
      List.filter_eq_self.mpr fun entry hentry => by simpa using h entry hentry
    rw [Collections.inUse, hall]
    rfl

theorem noneEmpty_erase {data : Collections} (h : data.NoneEmpty) (name : String) :
    Collections.NoneEmpty (data.erase name) :=
  fun entry hentry => h entry ((OrderedMap.erase_sublist data name).subset hentry)

theorem listBy_eq_inUse_iff {session : Option SessionId} (arg : Value) (rest : Document) :
    s.listBy (("listCollections", arg) :: rest) session = (s.view session).map Collections.inUse ↔
      ∀ data, s.view session = .ok data → data.NoneEmpty := by
  rw [listBy_eq]
  cases s.view session with
  | error e => exact iff_of_true rfl nofun
  | ok data =>
      change Except.ok (sortedNames data.keys) = .ok data.inUse ↔ _
      rw [Except.ok.injEq, sortedNames_keys_eq_inUse_iff]
      exact ⟨fun h other hother => Except.ok.inj hother ▸ h, fun h => h data rfl⟩

-- Only a write that leaves its collection without documents brings in an empty one.
theorem noneEmpty_next (h : s.All Collections.NoneEmpty) (hleaves : ¬ s.LeavesEmpty step) :
    (s.next step).All Collections.NoneEmpty := by
  have hfacing : (s.facing step).All Collections.NoneEmpty := h
  cases hw : step.call.write? with
  | none => exact All.perform_of_not_write hfacing (fun _ name hdata => noneEmpty_erase hdata name) hw
  | some write =>
      obtain ⟨name, f⟩ := write
      by_cases hf : step.failing = some step.call.name
      · exact All.perform_of_failing hfacing hf
      · cases hv : s.view step.session with
        | error e => exact All.perform_of_view_error hfacing hw hf hv
        | ok data =>
            have hdata : ∀ entry ∈ data, entry.2 ≠ [] := All.of_view h hv
            refine (All.perform_of_write_iff hfacing hw hf hv).mpr ?_
            refine (OrderedMap.forall_mem_insert_iff (P := (· ≠ [])) hdata).mpr fun hnil => hleaves ?_
            exact ⟨hf, data, name, hv, by rw [hw]; rfl, (Call.write_documents_eq_nil_iff hw _ _).mp hnil⟩

-- After such a write its session sees the collection, with no document in it.
theorem exists_view_next (hleaves : s.LeavesEmpty step) :
    ∃ data, (s.next step).view step.session = .ok data ∧ ¬ data.NoneEmpty := by
  obtain ⟨hf, data, name, hv, htarget, hempties⟩ := hleaves
  obtain ⟨⟨target, f⟩, hw, rfl⟩ := Option.map_eq_some_iff.mp htarget
  have hnil := (Call.write_documents_eq_nil_iff hw _ _).mpr hempties
  refine ⟨data.insert target [], ?_, fun hnone => ?_⟩
  · have hfacing : (s.facing step).failing ≠ some step.call.name := hf
    have hcounted : ((s.facing step).counted ((s.facing step).identifiers + step.call.identifiersGiven)).view
        step.session = .ok data := hv
    rw [next, play, perform_of_write hw hfacing, view_write hcounted, if_pos rfl]
    exact congrArg (fun docs => Except.ok (OrderedMap.insert data target docs)) hnil
  · exact hnone (target, []) (OrderedMap.mem_of_get? (OrderedMap.get?_insert_self data target [])) rfl

theorem run_concat (s : Store) (steps : List Step) (step : Step) :
    s.run (steps ++ [step]) = (s.run steps).next step := by
  rw [run_append, run_cons, run_nil]

theorem noneEmpty_run {steps : List Step}
    (h : ∀ before step, before ++ [step] <+: steps → ¬ (empty.run before).LeavesEmpty step) :
    (empty.run steps).All Collections.NoneEmpty := by
  induction steps using List.reverseRecOn with
  | nil => exact ⟨fun _ he => (by cases he), fun _ he => (by cases he)⟩
  | append_singleton before step ih =>
      rw [run_concat]
      have hbefore := ih fun earlier other hother => h earlier other (hother.trans (List.prefix_append _ _))
      exact noneEmpty_next hbefore (h before step (List.prefix_refl _))

-- The call and the command list the same names exactly if every committed collection holds a
-- document. Along a run from the empty store the command lists, in whatever session, just the
-- collections in use exactly as long as no write leaves its collection without documents.
theorem listings_agree_iff (steps : List Step) (arg : Value) (rest : Document) :
    let s := empty.run steps
    let command : Document := ("listCollections", arg) :: rest
    (s.play { call := .collectionNames }).1 = (s.view none).map Collections.inUse ∧
      ((s.play { call := .collectionNames }).1 = s.listBy command none ↔ s.committed.NoneEmpty) ∧
      ((∀ before, before <+: steps → ∀ session,
          (empty.run before).listBy command session =
            ((empty.run before).view session).map Collections.inUse) ↔
        ∀ before step, before ++ [step] <+: steps → ¬ (empty.run before).LeavesEmpty step) := by
  intro s command
  have hready : ¬ (none : Option String) = some "collection_names" := nofun
  have hnames : (s.play { call := .collectionNames }).1 = (s.view none).map Collections.inUse := by
    rw [play_of_ready hready]
    rfl
  refine ⟨hnames, ?_, fun hlists before step h hleaves => ?_, fun hleaves before h session => ?_⟩
  · rw [hnames, eq_comm, listBy_eq_inUse_iff]
    exact ⟨fun h => h s.committed rfl, fun h data hdata => Except.ok.inj hdata ▸ h⟩
  · obtain ⟨data, hdata, hempty⟩ := exists_view_next hleaves
    rw [← run_concat] at hdata
    exact hempty ((listBy_eq_inUse_iff arg rest).mp (hlists _ h step.session) data hdata)
  · have hall := noneEmpty_run fun earlier step hstep => hleaves earlier step (hstep.trans h)
    exact (listBy_eq_inUse_iff arg rest).mpr fun data hdata => hall.of_view hdata

end

-- A deletion that finds nothing to delete brings in its collection.
theorem listings_disagree :
    ¬ ∀ steps : List Step, ((empty.run steps).play { call := .collectionNames }).1 =
      (empty.run steps).listBy [("listCollections", .int32 1)] none := by
  intro h
  have hagree := h [{ call := .deleteMany "c" [] }]
  have hnames : Except.ok (ε := StoreError) ([] : List String) = .ok ["c"] := hagree
  cases hnames

end Store

end DocStore
