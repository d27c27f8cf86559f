import DocStore.Proofs.Document.Sort
import DocStore.Proofs.Value.Symbol
import Mathlib.Data.List.Induction

namespace DocStore.Document

-- Whether a symbol stands in a value that the documents are sorted by.
def hasSymbolAt (sort d : Document) : Bool :=
  sort.any fun entry => (d.getPath? entry.1).any Value.hasSymbol

theorem crossesAt_of_no_symbol {x y : Option Value} (hx : x.any Value.hasSymbol = false)
    (hy : y.any Value.hasSymbol = false) : crossesAt x y = false := by
  cases x with
  | none => rfl
  | some v =>
      cases y with
      | none => rfl
      | some w => exact Value.crosses_of_no_symbol hx hy

theorem crossesBy_of_no_symbol {sort a b : Document} (ha : hasSymbolAt sort a = false)
    (hb : hasSymbolAt sort b = false) : crossesBy sort a b = false := by
  induction sort with
  | nil => rfl
  | cons entry rest ih =>
      obtain ⟨path, direction⟩ := entry
      simp only [hasSymbolAt, List.any_cons, Bool.or_eq_false_iff] at ha hb
      have hfirst := crossesAt_of_no_symbol ha.1 hb.1
      have hrest := ih ha.2 hb.2
      simp [crossesBy, hfirst, hrest]

-- Whether comparing any two of the documents never holds a string against a symbol.
def Uncrossed (sort : Document) (docs : List Document) : Prop :=
  ∀ a ∈ docs, ∀ b ∈ docs, crossesBy sort a b = false

-- The first does not come after the second.
def NotAfter (sort a b : Document) : Prop := compareBy sort a b ≠ .gt

-- Whether the sort document does not tell the two apart.
def level (sort a b : Document) : Bool := compareBy sort a b == .eq

section

variable {sort a b c d : Document} {docs rest : List Document}

theorem Uncrossed.of_subset (h : Uncrossed sort docs) (hsubset : rest ⊆ docs) : Uncrossed sort rest :=
  fun a ha b hb => h a (hsubset ha) b (hsubset hb)

theorem NotAfter.trans (hab : NotAfter sort a b) (hbc : NotAfter sort b c)
    (hab' : crossesBy sort a b = false) (hbc' : crossesBy sort b c = false) : NotAfter sort a c :=
  (compareBy_follows hab' hbc').ne_gt hab hbc

theorem notAfter_of_not_lt (h : compareBy sort a b ≠ .lt) : NotAfter sort b a := by
  intro hgt
  rw [compareBy_swap] at hgt
  exact h (Ordering.swap_eq_gt.mp hgt)

-- Two documents level with a third one are level with each other.
theorem compareBy_eq_of_level (hb : level sort a b = true) (hc : level sort a c = true)
    (hba : crossesBy sort b a = false) (hac : crossesBy sort a c = false) : compareBy sort b c = .eq := by
  have hab : compareBy sort a b = .eq := by simpa [level] using hb
  have hthird : compareBy sort a c = .eq := by simpa [level] using hc
  have hfirst : compareBy sort b a = .eq := by rw [compareBy_swap, hab]; rfl
  have hfollows := compareBy_follows hba hac
  rw [hfirst, hthird] at hfollows
  exact hfollows (by decide) (by decide)

end

variable {sort d : Document} {docs : List Document}

theorem insertSorted_perm (sort d : Document) (docs : List Document) :
    (insertSorted sort d docs).Perm (d :: docs) := by
  induction docs with
  | nil => exact List.Perm.refl _
  | cons e rest ih =>
      rw [insertSorted]
      split
      · exact (ih.cons e).trans (List.Perm.swap d e rest)
      · exact List.Perm.refl _

theorem sortBy_concat (sort : Document) (docs : List Document) (d : Document) :
    sortBy sort (docs ++ [d]) = (insertSorted sort d (sortBy sort docs).reverse).reverse := by
  simp [sortBy, List.foldl_append]

theorem sortBy_perm (sort : Document) (docs : List Document) : (sortBy sort docs).Perm docs := by
  induction docs using List.reverseRecOn with
  | nil => exact List.Perm.refl _
  | append_singleton docs d ih =>
      have hinsert := insertSorted_perm sort d (sortBy sort docs).reverse
      have hreverse : (sortBy sort docs).reverse.Perm docs := (List.reverse_perm _).trans ih
      rw [sortBy_concat]
      exact (List.reverse_perm _).trans
        (hinsert.trans ((hreverse.cons d).trans (List.perm_append_singleton d docs).symm))

-- The documents into which one more is inserted, and that one.
theorem cons_reverse_sortBy_perm (sort : Document) (docs : List Document) (d : Document) :
    (d :: (sortBy sort docs).reverse).Perm (docs ++ [d]) :=
  (((List.reverse_perm _).trans (sortBy_perm sort docs)).cons d).trans
    (List.perm_append_singleton d docs).symm

-- The sorted documents stand in reverse while others are inserted.
theorem insertSorted_pairwise (huncrossed : Uncrossed sort (d :: docs))
    (h : docs.Pairwise fun a b => NotAfter sort b a) :
    (insertSorted sort d docs).Pairwise fun a b => NotAfter sort b a := by
  induction docs with
  | nil => exact List.pairwise_singleton _ d
  | cons e rest ih =>
      obtain ⟨hfirst, hrest⟩ := List.pairwise_cons.mp h
      rw [insertSorted]
      by_cases hlt : compareBy sort d e = .lt
      · rw [if_pos hlt]
        have huncrossed' : Uncrossed sort (d :: rest) :=
          huncrossed.of_subset (List.cons_subset_cons d (List.subset_cons_self e rest))
        refine List.pairwise_cons.mpr ⟨fun b hb => ?_, ih huncrossed' hrest⟩
        rcases List.mem_cons.mp ((insertSorted_perm sort d rest).mem_iff.mp hb) with rfl | hmem
        · exact fun hgt => by simp [hlt] at hgt
        · exact hfirst b hmem
      · rw [if_neg hlt]
        have hed : NotAfter sort e d := notAfter_of_not_lt hlt
        refine List.pairwise_cons.mpr ⟨fun b hb => ?_, h⟩
        have hmem : b ∈ d :: e :: rest := List.mem_cons_of_mem d hb
        rcases List.mem_cons.mp hb with rfl | hrestmem
        · exact hed
        · exact (hfirst b hrestmem).trans hed
            (huncrossed b hmem e (List.mem_cons_of_mem d List.mem_cons_self))
            (huncrossed e (List.mem_cons_of_mem d List.mem_cons_self) d List.mem_cons_self)

theorem sortBy_pairwise (huncrossed : Uncrossed sort docs) :
    (sortBy sort docs).Pairwise (NotAfter sort) := by
  induction docs using List.reverseRecOn with
  | nil => exact List.Pairwise.nil
  | append_singleton docs d ih =>
      have hperm := cons_reverse_sortBy_perm sort docs d
      have hdocs : Uncrossed sort docs := huncrossed.of_subset (List.subset_append_left docs [d])
      rw [sortBy_concat, List.pairwise_reverse]
      exact insertSorted_pairwise (huncrossed.of_subset hperm.subset) (List.pairwise_reverse.mpr (ih hdocs))

-- Of the documents level with a given one, the new one comes first: those that it
-- is put behind are not level with it.
theorem filter_insertSorted {a : Document} (huncrossed : Uncrossed sort (a :: d :: docs)) :
    (insertSorted sort d docs).filter (level sort a) = (d :: docs).filter (level sort a) := by
  induction docs with
  | nil => rfl
  | cons e rest ih =>
      rw [insertSorted]
      by_cases hlt : compareBy sort d e = .lt
      · rw [if_pos hlt]
        have huncrossed' : Uncrossed sort (a :: d :: rest) := huncrossed.of_subset
          (List.cons_subset_cons a (List.cons_subset_cons d (List.subset_cons_self e rest)))
        have hapart : ¬ (level sort a d = true ∧ level sort a e = true) := by
          rintro ⟨hd, he⟩
          have heq := compareBy_eq_of_level hd he (huncrossed d (by simp) a (by simp))
            (huncrossed a (by simp) e (by simp))
          rw [hlt] at heq
          cases heq
        rw [List.filter_cons, ih huncrossed']
        by_cases hd : level sort a d = true
        · have he : ¬ level sort a e = true := fun he => hapart ⟨hd, he⟩
          rw [if_neg he, List.filter_cons_of_pos hd, List.filter_cons_of_pos hd,
            List.filter_cons_of_neg he]
        · rw [List.filter_cons_of_neg hd, List.filter_cons_of_neg hd, List.filter_cons]
      · rw [if_neg hlt]

-- Documents that are level with each other keep the order in which they came.
theorem sortBy_filter {a : Document} (huncrossed : Uncrossed sort (a :: docs)) :
    (sortBy sort docs).filter (level sort a) = docs.filter (level sort a) := by
  induction docs using List.reverseRecOn with
  | nil => rfl
  | append_singleton docs d ih =>
      have hperm := cons_reverse_sortBy_perm sort docs d
      have hdocs : Uncrossed sort (a :: docs) :=
        huncrossed.of_subset (List.cons_subset_cons a (List.subset_append_left docs [d]))
      rw [sortBy_concat, List.filter_reverse, filter_insertSorted (huncrossed.of_subset (hperm.cons a).subset),
        ← List.filter_reverse, List.reverse_cons, List.reverse_reverse, List.filter_append, ih hdocs,
        ← List.filter_append]

end DocStore.Document
