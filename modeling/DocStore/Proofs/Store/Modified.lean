import DocStore.Proofs.Collection.Modified
import DocStore.Proofs.Store.Write

namespace DocStore

namespace Store

variable {s : Store} {session : Option SessionId} {name : String} {selector : Document}
  {docs : List Document}

-- Whoever updates or replaces without adding a document leaves as many in the same order, and those
-- that are not selected as they were. A replacement reports as modified exactly the documents that
-- differ. An update reports these and the documents that it changes and restores; where no path leads
-- to another or through it, there are none of the latter.
theorem modified_counts_differing (selector : Document) (hdocs : s.seen session name = .ok docs)
    (hcomparable : Collection.Comparable docs) :
    (∀ update report, (s.perform session (.updateMany name selector update false)).1 = .ok report →
      ∃ docs', (s.perform session (.updateMany name selector update false)).2.Shows s session name docs' ∧
        Collection.Reports selector docs docs' report.modified
          ((Collection.reached selector false docs).countP (Collection.restores update))) ∧
    (∀ update report, (s.perform session (.updateOne name selector update false)).1 = .ok report →
      ∃ docs', (s.perform session (.updateOne name selector update false)).2.Shows s session name docs' ∧
        Collection.Reports selector docs docs' report.modified
          ((Collection.reached selector true docs).countP (Collection.restores update))) ∧
    (∀ replacement report, (s.perform session (.replaceOne name selector replacement false)).1 = .ok report →
      ∃ docs', (s.perform session (.replaceOne name selector replacement false)).2.Shows s session name docs' ∧
        Collection.Reports selector docs docs' report.modified 0) ∧
    ∀ update : Document, (Value.document update).WellFormed → update.paths.Pairwise Path.Apart →
      ∀ onlyFirst, (Collection.reached selector onlyFirst docs).countP (Collection.restores update) = 0 := by
  refine ⟨fun update report h => ?_, fun update report h => ?_, fun replacement report h => ?_, ?_⟩
  · obtain ⟨houtcome, hshows⟩ := shows_of_write_ok rfl hdocs h
    rw [Collection.update_of_no_upsert] at houtcome hshows
    exact ⟨_, hshows, Collection.updateEach_reports hcomparable houtcome⟩
  · obtain ⟨houtcome, hshows⟩ := shows_of_write_ok rfl hdocs h
    rw [Collection.update_of_no_upsert] at houtcome hshows
    exact ⟨_, hshows, Collection.updateEach_reports hcomparable houtcome⟩
  · obtain ⟨houtcome, hshows⟩ := shows_of_write_ok rfl hdocs h
    rw [Collection.replaceOne_of_no_upsert] at houtcome hshows
    exact ⟨_, hshows, Collection.replaceFirst_reports hcomparable houtcome⟩
  · intro update hupdate hapart onlyFirst
    refine List.countP_eq_zero.mpr fun d hd => ?_
    have hmem : d ∈ docs := Collection.mem_of_mem_reached hd
    simp [Collection.restores_eq_false hupdate hapart (hcomparable.wellFormed d hmem)]

def counters : List Document := [[("_id", .int32 1), ("a", .int32 1)], [("_id", .int32 2), ("a", .int32 5)]]

def counting : Store := { committed := [("c", counters)] }

theorem counters_comparable : Collection.Comparable counters := by
  constructor
  · simp [counters, Value.WellFormed, Value.WellFormedFields, OrderedMap.Distinct, OrderedMap.keys]
  · decide

-- The one is set and the other counted on.
def markAndCount : Document := [("$set", .document [("b.c", .boolean true)]), ("$inc", .document [("a", .int32 1)])]

theorem modified_counts_differing_counters :
    Collection.Comparable counters ∧
      ∃ docs', (counting.perform none (.updateMany "c" [] markAndCount false)).2.Shows counting none "c" docs' ∧
        Collection.differing counters docs' = 2 := by
  refine ⟨counters_comparable, ?_⟩
  obtain ⟨hmany, _, _, hexact⟩ :=
    @modified_counts_differing counting none "c" counters [] rfl counters_comparable
  obtain ⟨docs', hshows, hreports⟩ := hmany markAndCount ⟨2, 2, false⟩ rfl
  have hwf : (Value.document markAndCount).WellFormed := by
    simp [markAndCount, Value.WellFormed, Value.WellFormedFields, OrderedMap.Distinct, OrderedMap.keys]
  have hpaths : markAndCount.paths = ["b.c", "a"] := rfl
  have hapart : markAndCount.paths.Pairwise Path.Apart := by
    rw [hpaths, List.pairwise_pair]
    exact ⟨by decide, by decide⟩
  have hmodified := hreports.modified
  rw [hexact markAndCount hwf hapart false] at hmodified
  exact ⟨docs', hshows, hmodified.symm⟩

-- The counter is set and counted back to what it was.
def thereAndBack : Document := [("$set", .document [("a", .int32 2)]), ("$inc", .document [("a", .int32 (-1))])]

-- Not every update reports as modified only what differs.
theorem modified_exceeds_differing :
    ¬ ∀ (s : Store) (session : Option SessionId) (name : String) (selector update : Document)
        (docs docs' : List Document) (report : UpdateReport),
      s.seen session name = .ok docs → Collection.Comparable docs → (Value.document update).WellFormed →
        (s.perform session (.updateOne name selector update false)).1 = .ok report →
          (s.perform session (.updateOne name selector update false)).2.Shows s session name docs' →
            report.modified = Collection.differing docs docs' := by
  intro h
  have hwf : (Value.document thereAndBack).WellFormed := by
    simp [thereAndBack, Value.WellFormed, Value.WellFormedFields, OrderedMap.Distinct, OrderedMap.keys]
  have houtcome : (counting.perform none (.updateOne "c" [] thereAndBack false)).1 = .ok ⟨1, 1, false⟩ := rfl
  have hshows := (shows_of_write_ok rfl (show counting.seen none "c" = .ok counters from rfl) houtcome).2
  have hmodified := h counting none "c" [] thereAndBack counters _ _ rfl counters_comparable hwf houtcome hshows
  exact absurd hmodified (by decide)

end Store

end DocStore
