import DocStore.Execute
import DocStore.Proofs.Client
import DocStore.Proofs.Filter.Compile
import DocStore.Proofs.Query
import DocStore.Proofs.Selector.Unconditional

namespace DocStore

theorem prepare_eq_ok {scope : Scope} {clauses : List Clause} {g : GroupedQuery} {selector : Document}
    (h : prepare scope clauses = .ok (g, selector)) :
    GroupedQuery.ofClauses clauses = .ok g ∧ g.selector scope.config.compositePolicy = .ok selector := by
  obtain ⟨own, hown, hrest⟩ := Except.bind_eq_ok_iff.mp h
  obtain ⟨q, hq, hpair⟩ := Except.bind_eq_ok_iff.mp hrest
  cases hpair
  exact ⟨hown, hq⟩

-- The query document is empty where there is no filter, and only there.
theorem prepare_selector_eq_nil_iff {scope : Scope} {clauses : List Clause} {g : GroupedQuery}
    {selector : Document} (h : prepare scope clauses = .ok (g, selector)) :
    selector = [] ↔ ∀ f, .filter f ∉ clauses := by
  obtain ⟨hg, hselector⟩ := prepare_eq_ok h
  rw [← GroupedQuery.ofClauses_filter_eq_none_iff hg]
  unfold GroupedQuery.selector at hselector
  split at hselector
  · next f hf =>
    obtain ⟨arg, rfl⟩ := Filter.compile_key hselector
    simp [hf]
  · next hf =>
    cases hselector
    simp [hf]

namespace Execute

variable {α : Type} {scope : Scope} {g : GroupedQuery} {selector : Document} {params : Params}
  {kind : CommandKind} {client : Client}

-- Failed on a precondition, with no call noted and the store as it was.
def Refused (client : Client) (outcome : Except DbError α × Client) : Prop :=
  (∃ missing, outcome.1 = .error (.precondition missing)) ∧
    outcome.2.noted = client.noted ∧ outcome.2.store = client.store

-- The call that an update or a deletion comes down to, if there is something
-- to write at all.
def writeOf (scope : Scope) (g : GroupedQuery) (selector : Document) (params : Params) :
    CommandKind → Option Call
  | .update =>
    params.data.bind fun data =>
      if params.singleUpdate then some (.updateOne g.table selector (setOf data) false)
      else
        let fields := allowedFields g.updateFields (scope.config.fieldNaming.renameKeys data)
        if fields.isEmpty then none else some (.updateMany g.table selector (setOf fields) false)
  | .delete => some (.deleteMany g.table selector)
  | _ => none

theorem perform_refused_of_nil (hkind : kind = .update ∨ kind = .delete) :
    Refused client (perform scope g [] params kind client) := by
  rcases hkind with rfl | rfl
  · exact ⟨⟨.whereForUpdate, rfl⟩, rfl, rfl⟩
  · exact ⟨⟨.whereForDelete, rfl⟩, rfl, rfl⟩

-- All that an update or a deletion does once there is a query document: it
-- fails for want of something to write, or makes its call and reports the answer.
theorem perform_cases (hselector : selector ≠ []) (hkind : kind = .update ∨ kind = .delete) :
    (writeOf scope g selector params kind = none ∧
      ∃ missing, perform scope g selector params kind = throw (.precondition missing)) ∨
    ∃ (c : Call) (activity : String) (report : c.Answer → ExecResult),
      writeOf scope g selector params kind = some c ∧
        perform scope g selector params kind = report <$> scope.issue activity c := by
  rcases hkind with rfl | rfl
  · cases hdata : params.data with
    | none =>
        refine Or.inl ⟨by simp [writeOf, hdata], .payload .update, ?_⟩
        simp [perform, update, payload, hselector, hdata]
    | some data =>
        by_cases hsingle : params.singleUpdate = true
        · refine Or.inr ⟨.updateOne g.table selector (setOf data) false, "unable to update",
            ExecResult.updated, by simp [writeOf, hdata, hsingle], ?_⟩
          simp [perform, update, payload, hselector, hdata, hsingle]
        · let fields := allowedFields g.updateFields (scope.config.fieldNaming.renameKeys data)
          by_cases hfields : fields = []
          · refine Or.inl ⟨by simp [writeOf, hdata, hsingle, fields, hfields], .updatableFields, ?_⟩
            simp [perform, update, payload, hselector, hdata, hsingle, fields, hfields]
          · refine Or.inr ⟨.updateMany g.table selector (setOf fields) false, "unable to update",
              ExecResult.updated, by simp [writeOf, hdata, hsingle, fields, hfields], ?_⟩
            simp [perform, update, payload, hselector, hdata, hsingle, fields, hfields]
  · refine Or.inr ⟨.deleteMany g.table selector, "unable to delete", ExecResult.deleted, rfl, ?_⟩
    simp [perform, delete, hselector]

theorem perform_refused_iff (client : Client) (hselector : selector ≠ [])
    (hkind : kind = .update ∨ kind = .delete) :
    Refused client (perform scope g selector params kind client) ↔
      writeOf scope g selector params kind = none := by
  rcases perform_cases hselector hkind with ⟨hnothing, missing, h⟩ | ⟨c, activity, report, hc, h⟩
  · rw [h]
    exact ⟨fun _ => hnothing, fun _ => ⟨⟨missing, rfl⟩, rfl, rfl⟩⟩
  · -- a call that is made is noted, and nothing is noted of what is refused
    rw [h, hc]
    refine ⟨fun hrefused => ?_, fun hnone => by cases hnone⟩
    have hnoted := hrefused.2.1
    rw [ClientM.map_snd, Scope.issue_noted] at hnoted
    simp at hnoted

theorem perform_noted (client : Client) (hselector : selector ≠ [])
    (hkind : kind = .update ∨ kind = .delete) {c : Call}
    (hc : writeOf scope g selector params kind = some c) :
    (perform scope g selector params kind client).2.noted =
      client.noted ++ [⟨c, c.isBound scope.session⟩] := by
  rcases perform_cases hselector hkind with ⟨hnothing, _⟩ | ⟨own, activity, report, hown, h⟩
  · rw [hc] at hnothing
    cases hnothing
  · rw [hc, Option.some.injEq] at hown
    subst hown
    rw [h, ClientM.map_snd, Scope.issue_noted]

-- A run adds to what it performs only a line to the trace.
theorem run_of_kind (params : Params) (client : Client) {clauses : List Clause}
    (hprepare : prepare scope clauses = .ok (g, selector)) (hkind : g.kind = some kind) :
    ∃ event, run scope clauses params client =
      ((perform scope g selector params kind client).1,
        (perform scope g selector params kind client).2.emit event) := by
  simp only [run, hprepare, hkind]
  split
  · next result after h => exact ⟨_, by rw [h]⟩
  · next e after h => exact ⟨_, by rw [h]⟩

-- An update or a deletion that no condition limits is refused exactly when no
-- filter was given at all or there is nothing to write. Otherwise its call is
-- made, and reaches all documents of the collection or none.
theorem unconditional_write_effect (params : Params) (client : Client) {clauses : List Clause}
    (hprepare : prepare scope clauses = .ok (g, selector)) (hkind : g.kind = some kind)
    (hwrite : kind = .update ∨ kind = .delete) (hfree : Selector.isUnconditional selector = true) :
    (Refused client (run scope clauses params client) ↔
      (∀ f, .filter f ∉ clauses) ∨ writeOf scope g selector params kind = none) ∧
    ∀ c, (∃ f, .filter f ∈ clauses) → writeOf scope g selector params kind = some c →
      (run scope clauses params client).2.noted = client.noted ++ [⟨c, c.isBound scope.session⟩] ∧
        ∃ b, ∀ d, Selector.holds d selector = .ok b := by
  have hnil := prepare_selector_eq_nil_iff hprepare
  obtain ⟨event, hrun⟩ := run_of_kind params client hprepare hkind
  rw [hrun]
  refine ⟨?_, fun c hfilter hc => ⟨?_, Selector.holds_unconditional hfree⟩⟩
  · by_cases hselector : selector = []
    · have hrefused : Refused client (perform scope g selector params kind client) := by
        rw [hselector]
        exact perform_refused_of_nil hwrite
      exact ⟨fun _ => Or.inl (hnil.mp hselector), fun _ => hrefused⟩
    · have hfilters := fun hnone => hselector (hnil.mpr hnone)
      rw [or_iff_right hfilters]
      exact perform_refused_iff client hselector hwrite
  · obtain ⟨f, hf⟩ := hfilter
    exact perform_noted client (fun hselector => hnil.mp hselector f hf) hwrite hc

def staff : Client :=
  { store := { committed := [("staff", [[("_id", .int32 1)], [("_id", .int32 2)]])] } }

-- The one condition makes no sense and is dropped from the composite around it.
def deleteTagged : List Clause :=
  [.table "staff", .filter (.and [.field "tags" (.all (.int32 5))]), .delete]

theorem unconditional_write_effect_deleteTagged :
    (∃ g selector, prepare { config := {} } deleteTagged = .ok (g, selector) ∧ g.kind = some .delete ∧
      Selector.isUnconditional selector = true) ∧
    ¬ Refused staff (run { config := {} } deleteTagged {} staff) ∧
    (run { config := {} } deleteTagged {} staff).2.noted =
      [⟨.deleteMany "staff" [("$and", .array [])], false⟩] := by
  have heffect := unconditional_write_effect {} staff (show prepare { config := {} } deleteTagged =
    .ok (_, _) from rfl) rfl (Or.inr rfl) rfl
  have hfilter : ∃ f, .filter f ∈ deleteTagged := ⟨_, List.mem_cons_of_mem _ List.mem_cons_self⟩
  refine ⟨⟨_, _, rfl, rfl, rfl⟩, fun hrefused => ?_, (heffect.2 _ hfilter rfl).1⟩
  cases heffect.1.mp hrefused with
  | inl hnone =>
      obtain ⟨f, hf⟩ := hfilter
      exact hnone f hf
  | inr hnothing => cases hnothing

-- Not every update or deletion that no condition limits is refused.
theorem unconditional_write_not_refused :
    ¬ ∀ (scope : Scope) (clauses : List Clause) (params : Params) (client : Client) (g : GroupedQuery)
        (selector : Document), prepare scope clauses = .ok (g, selector) →
      g.kind = some .update ∨ g.kind = some .delete → Selector.isUnconditional selector = true →
        Refused client (run scope clauses params client) := by
  intro h
  have hrefused := h { config := {} } deleteTagged {} staff _ _ rfl (Or.inr rfl) rfl
  obtain ⟨missing, hmissing⟩ := hrefused.1
  cases hmissing

end Execute

end DocStore
