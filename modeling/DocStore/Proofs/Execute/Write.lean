import DocStore.Proofs.Document.Renaming
import DocStore.Proofs.Execute.Guard
import DocStore.Proofs.Store.Write
import DocStore.Proofs.Value.Equality

namespace DocStore

namespace Document

-- Keys that become the same leave one entry.
theorem wellFormed_renameKeys {d : Document} (naming : FieldNaming) (hd : (Value.document d).WellFormed) :
    (Value.document (naming.renameKeys d)).WellFormed := by
  obtain ⟨hdistinct, hfields⟩ := Value.wellFormed_document_iff.mp hd
  refine Value.wellFormed_document_iff.mpr ⟨FieldNaming.distinct_renameKeys naming hdistinct, fun field hfield => ?_⟩
  rw [FieldNaming.renameKeys_eq_foldl naming hdistinct] at hfield
  rcases OrderedMap.mem_foldl_insert OrderedMap.distinct_nil hfield with hnone | ⟨source, hsource, rfl⟩
  · cases hnone
  · exact hfields source hsource

end Document

namespace Scope

variable {scope : Scope} {activity : String} {c : Call} {client : Client}

theorem issue_store : (scope.issue activity c client).2.store = (client.store.perform scope.session c).2 := by
  have hnote : (client.note c (c.isBound scope.session)).store = client.store := rfl
  simp only [issue, Client.issue, hnote]
  split <;> simp_all

theorem issue_eq_ok_iff {answer : c.Answer} :
    (scope.issue activity c client).1 = .ok answer ↔
      (client.store.perform scope.session c).1 = .ok answer := by
  have hnote : (client.note c (c.isBound scope.session)).store = client.store := rfl
  simp only [issue, Client.issue, hnote]
  split <;> simp_all

-- What comes of making a call that writes and reporting its answer.
theorem report_write_cases {α : Type} {name : String} {docs : List Document}
    {f : ObjectId → List Document → Write c.Answer} (hwrite : c.write? = some (name, f))
    (hdocs : client.store.seen scope.session name = .ok docs) (activity : String) (report : c.Answer → α) :
    let after := (report <$> scope.issue activity c) client
    let written := f client.store.fresh docs
    ((∃ e, after.1 = .error e) ∧ after.2.store.Shows client.store scope.session name docs) ∨
      (∀ result, after.1 = .ok result → ∃ answer, result = report answer ∧ written.outcome = .ok answer) ∧
        after.2.store.Shows client.store scope.session name written.documents := by
  dsimp only
  rw [ClientM.map_fst, ClientM.map_snd, issue_store]
  rcases Store.perform_write hwrite hdocs with ⟨_, houtcome, hshows⟩ | ⟨houtcome, hshows⟩
  · refine Or.inl ⟨?_, hshows⟩
    cases hissue : (scope.issue activity c client).1 with
    | error e => exact ⟨e, rfl⟩
    | ok answer => cases (issue_eq_ok_iff.mp hissue).symm.trans houtcome
  · refine Or.inr ⟨fun result hresult => ?_, hshows⟩
    obtain ⟨answer, hanswer, hreport⟩ := Except.map_eq_ok_iff.mp hresult
    exact ⟨answer, hreport.symm, houtcome.symm.trans (issue_eq_ok_iff.mp hanswer)⟩

end Scope

end DocStore
