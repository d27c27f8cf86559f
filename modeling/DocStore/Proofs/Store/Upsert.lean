import DocStore.Proofs.Collection.Upsert
import DocStore.Proofs.Store.Write

namespace DocStore

namespace Store

-- An upsert that sets fields.
def upserting (name : String) (selector fields : Document) : Call :=
  .updateMany name selector [("$set", .document fields)] true

section

variable {s : Store} {session : Option SessionId} {name : String} {selector fields : Document}
  {docs : List Document} {report : UpdateReport}

theorem failing_perform_of_ok {c : Call} {answer : c.Answer} (h : (s.perform session c).1 = .ok answer) :
    s.failing ≠ some c.name ∧ (s.perform session c).2.failing = s.failing := by
  have hready : s.failing ≠ some c.name := by
    intro hf
    rw [perform_of_failing hf] at h
    cases h
  refine ⟨hready, ?_⟩
  rw [perform_of_ready hready, failing_answer]

-- After an upsert that succeeds something is selected, and to repeat it adds nothing, exactly if
-- something was selected before or all terms are taken over: those on fields of the document itself
-- that can be read, and those that ask for nothing. Otherwise nothing is selected afterwards, and to
-- repeat it adds one more document.
theorem upsert_settles (hdocs : s.seen session name = .ok docs) (hselector : Selector.EqualityTerms selector)
    (hapart : ∀ p ∈ fields.keys, ∀ q ∈ selector.keys, Path.Apart p q)
    (hmeet : ∀ d ∈ docs, Selector.holds d selector = .ok true →
      ∀ p ∈ fields.keys, ∀ q ∈ selector.keys, Document.isTopField q = false → ¬ d.MeetInArray p q)
    (hok : (s.perform session (upserting name selector fields)).1 = .ok report) :
    let after := (s.perform session (upserting name selector fields)).2
    let again := after.perform session (upserting name selector fields)
    ∃ docs' docs'', after.seen session name = .ok docs' ∧ again.2.seen session name = .ok docs'' ∧
      (Collection.Settles selector docs →
        (∃ e ∈ docs', Selector.holds e selector = .ok true) ∧ docs''.length = docs'.length) ∧
      (¬ Collection.Settles selector docs →
        (∀ e ∈ docs', Selector.holds e selector = .ok false) ∧ docs''.length = docs'.length + 1) := by
  intro after again
  obtain ⟨hready, hfailing⟩ := failing_perform_of_ok hok
  obtain ⟨houtcome, hshows⟩ := shows_of_write_ok rfl hdocs hok
  have hsettles := Collection.exists_selected_iff_settles hselector hapart hmeet houtcome
  obtain ⟨hsettled, hunsettled⟩ := Collection.length_update_again hselector houtcome hsettles after.fresh
  have hafter := (hshows session name).trans (if_pos ⟨rfl, rfl⟩)
  have hagain : again.2.seen session name = .ok (Collection.update name selector [("$set", .document fields)]
      true false after.fresh (Collection.update name selector [("$set", .document fields)] true false
        s.fresh docs).documents).documents := by
    rcases perform_write (c := upserting name selector fields) rfl hafter with ⟨hfails, _⟩ | ⟨_, hshows'⟩
    · exact absurd (hfailing.symm.trans hfails) hready
    · exact (hshows' session name).trans (if_pos ⟨rfl, rfl⟩)
  exact ⟨_, _, hafter, hagain, fun h => ⟨hsettles.mpr h, hsettled h⟩, hunsettled⟩

end

def guestBook : Store :=
  { committed := [("c", [[("_id", .int32 1), ("name", .string "Bob"), ("seats", .array [.int32 4])]])] }

def adaWithoutCity : Document := [("name", .string "Ada"), ("home.city", .document [("$eq", .null)])]

def streetAndVisits : Document := [("home.street", .string "Elm"), ("visits", .int32 1)]

-- The term on a path with a dot asks for nothing, and a street is no city.
theorem upsert_settles_adaWithoutCity :
    let after := (guestBook.perform none (upserting "c" adaWithoutCity streetAndVisits)).2
    let again := after.perform none (upserting "c" adaWithoutCity streetAndVisits)
    Selector.EqualityTerms adaWithoutCity ∧
      ∃ docs' docs'', after.seen none "c" = .ok docs' ∧ again.2.seen none "c" = .ok docs'' ∧
        (∃ e ∈ docs', Selector.holds e adaWithoutCity = .ok true) ∧ docs''.length = docs'.length := by
  intro after again
  have hselector : Selector.EqualityTerms adaWithoutCity :=
    { paths := by decide
      apart := List.pairwise_pair.mpr ⟨by decide, by decide⟩
      values := List.forall_mem_cons.mpr ⟨⟨.string "Ada", rfl, trivial, rfl⟩,
        List.forall_mem_singleton.mpr ⟨.null, rfl, trivial, rfl⟩⟩ }
  have hapart : ∀ p ∈ streetAndVisits.keys, ∀ q ∈ adaWithoutCity.keys, Path.Apart p q := by
    unfold Path.Apart
    decide
  have hdocs : guestBook.seen none "c" = .ok (guestBook.documents "c") := rfl
  have hunselected : ∀ d ∈ guestBook.documents "c", Selector.holds d adaWithoutCity = .ok false :=
    List.forall_mem_singleton.mpr rfl
  have hok : (guestBook.perform none (upserting "c" adaWithoutCity streetAndVisits)).1 =
      .ok { upserted := true } := rfl
  obtain ⟨docs', docs'', hafter, hagain, hsettled, _⟩ :=
    upsert_settles hdocs hselector hapart (fun d hd hselected => by
      rw [hunselected d hd] at hselected
      cases hselected) hok
  have hcarried : ∀ entry ∈ adaWithoutCity, Collection.CarriedOver entry :=
    List.forall_mem_cons.mpr ⟨Or.inl ⟨rfl, rfl, by decide, by decide⟩,
      List.forall_mem_singleton.mpr (Or.inr rfl)⟩
  obtain ⟨hselected, hlength⟩ := hsettled (Or.inr hcarried)
  exact ⟨hselector, docs', docs'', hafter, hagain, hselected, hlength⟩

-- A term on a path with a dot is not taken over, so that each upsert adds a document that is not found.
theorem upserts_do_not_settle : ¬ ∀ (s : Store) (name : String) (selector fields : Document)
    (report : UpdateReport), Selector.EqualityTerms selector →
      (∀ p ∈ fields.keys, ∀ q ∈ selector.keys, Path.Apart p q) →
      (s.perform none (upserting name selector fields)).1 = .ok report →
      let after := (s.perform none (upserting name selector fields)).2
      (∃ e ∈ after.documents name, Selector.holds e selector = .ok true) ∧
        ((after.perform none (upserting name selector fields)).2.documents name).length =
          (after.documents name).length := by
  intro h
  have hselector : Selector.EqualityTerms [("a.b", .int32 1)] :=
    { paths := by decide
      apart := List.pairwise_singleton _ _
      values := List.forall_mem_singleton.mpr ⟨.int32 1, rfl, trivial, rfl⟩ }
  have hapart : ∀ p ∈ OrderedMap.keys [("c", Value.int32 1)], ∀ q ∈ OrderedMap.keys [("a.b", Value.int32 1)],
      Path.Apart p q := by
    unfold Path.Apart
    decide
  have hsettled := h empty "c" [("a.b", .int32 1)] [("c", .int32 1)] { upserted := true } hselector hapart rfl
  have hlength : 2 = 1 := hsettled.2
  cases hlength

end Store

end DocStore
