import DocStore.Proofs.Outcome
import DocStore.Proofs.Store.Effect

namespace DocStore

namespace Store

variable {s : Store} {session : Option SessionId} {name : String} {docs : List Document}

-- What a session sees of a collection.
def seen (s : Store) (session : Option SessionId) (name : String) : Except StoreError (List Document) :=
  (s.view session).map (·.documents name)

-- Whether the session sees these documents in the collection, and all else that
-- anybody sees is as before.
def Shows (s before : Store) (session : Option SessionId) (name : String) (docs : List Document) : Prop :=
  ∀ other key, s.seen other key =
    if other = session ∧ key = name then .ok docs else before.seen other key

theorem shows_of_view_eq {before : Store} (h : ∀ other, s.view other = before.view other)
    (hdocs : before.seen session name = .ok docs) : s.Shows before session name docs := by
  intro other key
  split
  · next hown =>
      obtain ⟨rfl, rfl⟩ := hown
      rw [← hdocs, seen, h, seen]
  · rw [seen, h, seen]

theorem shows_write {α : Type} {data : Collections} (hv : s.view session = .ok data)
    (f : List Document → Write α) :
    (s.write session name f).2.Shows s session name (f (data.documents name)).documents := by
  intro other key
  rw [seen, view_write hv]
  by_cases hsession : other = session
  · subst hsession
    simp only [if_true, Except.map, Collections.documents_insert, seen, hv, true_and, eq_comm (a := name)]
    split <;> rfl
  · simp only [hsession, if_false, false_and, seen]

-- A call that writes either fails at once or is its write.
theorem perform_write {c : Call} {f : ObjectId → List Document → Write c.Answer}
    (hwrite : c.write? = some (name, f)) (hdocs : s.seen session name = .ok docs) :
    (s.failing = some c.name ∧ (s.perform session c).1 = .error (.injected c.name) ∧
        (s.perform session c).2.Shows s session name docs) ∨
      (s.perform session c).1 = (f s.fresh docs).outcome ∧
        (s.perform session c).2.Shows s session name (f s.fresh docs).documents := by
  by_cases hfailing : s.failing = some c.name
  · refine Or.inl ⟨hfailing, ?_⟩
    rw [perform_of_failing hfailing]
    exact ⟨rfl, shows_of_view_eq (fun _ => rfl) hdocs⟩
  · right
    obtain ⟨data, hv, rfl⟩ := Except.map_eq_ok_iff.mp hdocs
    have hcounted : (s.counted (s.identifiers + c.identifiersGiven)).view session = .ok data := hv
    rw [perform_of_write hwrite hfailing]
    exact ⟨write_outcome hcounted name _, shows_write hcounted _⟩

-- What everybody sees after a write that has succeeded.
theorem shows_of_write_ok {c : Call} {f : ObjectId → List Document → Write c.Answer} {answer : c.Answer}
    (hwrite : c.write? = some (name, f)) (hdocs : s.seen session name = .ok docs)
    (h : (s.perform session c).1 = .ok answer) :
    (f s.fresh docs).outcome = .ok answer ∧
      (s.perform session c).2.Shows s session name (f s.fresh docs).documents := by
  rcases perform_write hwrite hdocs with ⟨_, hfails, _⟩ | ⟨houtcome, hshows⟩
  · cases hfails.symm.trans h
  · exact ⟨houtcome.symm.trans h, hshows⟩

-- A write in a session that is not there changes nothing that anybody sees.
theorem seen_perform_of_error {c : Call} {f : ObjectId → List Document → Write c.Answer} {e : StoreError}
    (hwrite : c.write? = some (name, f)) (hmissing : s.seen session name = .error e)
    (other : Option SessionId) (key : String) : (s.perform session c).2.seen other key = s.seen other key := by
  by_cases hfailing : s.failing = some c.name
  · rw [perform_of_failing hfailing]
    rfl
  · have hview : s.view session = .error e := Except.map_eq_error_iff.mp hmissing
    have hcounted : (s.counted (s.identifiers + c.identifiersGiven)).view session = .error e := hview
    rw [perform_of_write hwrite hfailing, write_of_view_error hcounted]
    rfl

end Store

end DocStore
