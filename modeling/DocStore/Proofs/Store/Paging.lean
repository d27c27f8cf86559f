import DocStore.Proofs.Collection.Selection
import DocStore.Proofs.Document.Stable
import DocStore.Proofs.Store.Read

namespace DocStore

namespace Collection

-- The documents of one page, the pages counted from zero.
def page (size : Nat) (docs : List Document) (i : Nat) : List Document := (docs.drop (i * size)).take size

theorem flatMap_page (size : Nat) (docs : List Document) (count : Nat) :
    (List.range count).flatMap (page size docs) = docs.take (count * size) := by
  induction count with
  | zero => simp
  | succ count ih =>
      rw [List.range_succ, List.flatMap_append, ih, Nat.succ_mul, List.take_add]
      simp [page]

variable {selector sort : Document} {docs : List Document}

theorem find_sorted (hdecided : ∀ d ∈ docs, ∃ b, Selector.holds d selector = .ok b)
    (hkeys : sort.length ≤ Document.maxSortKeys) (skip : Option Nat) (limit : Option Int) :
    find selector { sort := some sort, skip := skip, limit := limit } docs =
      .ok (limited limit
        ((sort.sortBy (docs.filter (Selector.passes selector))).drop (skip.getD 0))) := by
  have hcheck : sort.checkSort = .ok () := if_neg (Nat.not_lt.mpr hkeys)
  simp only [find, Selector.select_of_decided hdecided, sorted, projected, bind, Except.bind, hcheck]
  rfl

def pageOptions (sort : Document) (size i : Nat) : FindOptions :=
  { sort := some sort, skip := some (i * size), limit := some size }

theorem find_page (hdecided : ∀ d ∈ docs, ∃ b, Selector.holds d selector = .ok b)
    (hkeys : sort.length ≤ Document.maxSortKeys) {size : Nat} (hsize : 0 < size) (i : Nat) :
    find selector (pageOptions sort size i) docs =
      .ok (page size (sort.sortBy (docs.filter (Selector.passes selector))) i) := by
  have hne : (size : Int) ≠ 0 := by omega
  rw [pageOptions, find_sorted hdecided hkeys, limited, if_neg hne, Int.natAbs_natCast]
  rfl

end Collection

namespace Store

variable {s : Store} {session : Option SessionId} {data : Collections}

-- A call of find for each of the options.
def finds (session : Option SessionId) (name : String) (selector : Document) (earlier : List FindOptions) :
    List (Option SessionId × Call) :=
  earlier.map fun options => (session, .find name selector options)

-- Reading leaves nothing but the number of calls behind.
theorem after_finds (hv : s.view session = .ok data) (hready : s.failing ≠ some "find") (name : String)
    (selector : Document) (earlier : List FindOptions) :
    s.after (finds session name selector earlier) =
      { s with operations := s.operations + earlier.length } := by
  induction earlier generalizing s with
  | nil => rfl
  | cons options rest ih =>
      have hstep : s.after (finds session name selector (options :: rest)) =
          ({ s with operations := s.operations + 1 } : Store).after (finds session name selector rest) := by
        change (s.perform session (.find name selector options)).2.after _ = _
        rw [perform_find hv hready]
        rfl
      have hcounted : ({ s with operations := s.operations + 1 } : Store).view session = .ok data := hv
      rw [hstep, ih hcounted hready]
      simp only [List.length_cons, Nat.add_assoc, Nat.add_comm 1]

-- What is found with a sort document is what is found without, in an order that
-- never goes down, with level documents as they were inserted. The pages, whatever
-- is read between them, make up exactly this list.
theorem sorted_pages {name : String} {selector sort : Document} (hv : s.view session = .ok data)
    (hready : s.failing ≠ some "find")
    (hdecided : ∀ d ∈ data.documents name, ∃ b, Selector.holds d selector = .ok b)
    (hplain : ∀ d ∈ data.documents name, Document.hasSymbolAt sort d = false)
    (hkeys : sort.length ≤ Document.maxSortKeys) :
    ∃ unsorted sorted : List Document,
      (s.perform session (.find name selector {})).1 = .ok { rest := unsorted } ∧
      (s.perform session (.find name selector { sort := some sort })).1 = .ok { rest := sorted } ∧
      sorted.Perm unsorted ∧
      sorted.Pairwise (Document.NotAfter sort) ∧
      (∀ d ∈ unsorted, sorted.filter (Document.level sort d) = unsorted.filter (Document.level sort d)) ∧
      ∀ size, 0 < size → ∃ pages : Nat → List Document,
        (∀ i earlier, ((s.after (finds session name selector earlier)).perform session
            (.find name selector (Collection.pageOptions sort size i))).1 = .ok { rest := pages i }) ∧
        (∀ count, (List.range count).flatMap pages = sorted.take (count * size)) ∧
        ∀ count, sorted.length ≤ count * size → (List.range count).flatMap pages = sorted := by
  have huncrossed : Document.Uncrossed sort (data.documents name) := fun a ha b hb =>
    Document.crossesBy_of_no_symbol (hplain a ha) (hplain b hb)
  let unsorted := (data.documents name).filter (Selector.passes selector)
  have hsubset : unsorted ⊆ data.documents name := List.filter_sublist.subset
  have hselected : Document.Uncrossed sort unsorted := huncrossed.of_subset hsubset
  refine ⟨unsorted, sort.sortBy unsorted, ?_, ?_, Document.sortBy_perm sort unsorted,
    Document.sortBy_pairwise hselected, ?_, ?_⟩
  · rw [perform_find hv hready, Collection.find_default, Selector.select_of_decided hdecided]
    rfl
  · rw [perform_find hv hready, Collection.find_sorted hdecided hkeys]
    rfl
  · intro d hd
    exact Document.sortBy_filter (hselected.of_subset (List.cons_subset.mpr ⟨hd, List.Subset.refl _⟩))
  · intro size hsize
    have htake := Collection.flatMap_page size (sort.sortBy unsorted)
    refine ⟨Collection.page size (sort.sortBy unsorted), fun i earlier => ?_, htake, fun count hcount => ?_⟩
    · have hlater : (s.after (finds session name selector earlier)).view session = .ok data := by
        rw [after_finds hv hready]
        exact hv
      have hstill : (s.after (finds session name selector earlier)).failing ≠ some "find" := by
        rw [after_finds hv hready]
        exact hready
      rw [perform_find hlater hstill, Collection.find_page hdecided hkeys hsize]
      rfl
    · rw [htake, List.take_of_length_le hcount]

-- Two documents level with each other, one without a rank and one that is not
-- selected.
def standings : Store :=
  { committed := [("c", [ranked 1 7, [("_id", .int32 2)], ranked 3 8, ranked 4 7, ranked 5 6])] }

def belowFive : Document := [("_id", .document [("$lt", .int32 5)])]

theorem sorted_pages_standings :
    ∃ sorted : List Document,
      (standings.perform none (.find "c" belowFive { sort := some byRank })).1 = .ok { rest := sorted } ∧
      sorted = [ranked 3 8, ranked 1 7, ranked 4 7, [("_id", .int32 2)]] ∧
      sorted.Pairwise (Document.NotAfter byRank) ∧
      ∃ pages : Nat → List Document,
        pages 0 = [ranked 3 8, ranked 1 7, ranked 4 7] ∧ pages 1 = [[("_id", .int32 2)]] ∧
          (List.range 2).flatMap pages = sorted := by
  have hdecided : ∀ d ∈ standings.committed.documents "c",
      ∃ b, Selector.holds d belowFive = .ok b := by
    simp only [standings, Collections.documents, OrderedMap.getD]
    refine List.forall_mem_cons.mpr ⟨⟨true, rfl⟩, List.forall_mem_cons.mpr ⟨⟨true, rfl⟩, ?_⟩⟩
    refine List.forall_mem_cons.mpr ⟨⟨true, rfl⟩, List.forall_mem_cons.mpr ⟨⟨true, rfl⟩, ?_⟩⟩
    exact List.forall_mem_cons.mpr ⟨⟨false, rfl⟩, fun _ h => nomatch h⟩
  obtain ⟨unsorted, sorted, _, hsorted, _, hpairwise, _, hpaged⟩ :=
    @sorted_pages standings none standings.committed "c" belowFive byRank rfl (fun h => nomatch h) hdecided
      (by decide) (by decide)
  obtain ⟨pages, hpages, _, hall⟩ := hpaged 3 (by decide)
  have hlist : sorted = [ranked 3 8, ranked 1 7, ranked 4 7, [("_id", .int32 2)]] := by
    cases hsorted
    rfl
  refine ⟨sorted, hsorted, hlist, hpairwise, pages, ?_, ?_, hall 2 (by rw [hlist]; decide)⟩
  · have hfirst := Except.ok.inj (hpages 0 [])
    exact (congrArg ResultStream.rest hfirst).symm
  · have hsecond := Except.ok.inj (hpages 1 [])
    exact (congrArg ResultStream.rest hsecond).symm

end Store

end DocStore
