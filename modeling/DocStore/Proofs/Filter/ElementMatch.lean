import DocStore.Proofs.Filter.Truth
import DocStore.Proofs.OrderedMap
import DocStore.Proofs.Selector.ElementMatch

namespace DocStore.Filter

-- The items that no later one shares its key with.
def lastOfKey : List Filter → List Filter
  | [] => []
  | item :: rest => if rest.any (·.key == item.key) then lastOfKey rest else item :: lastOfKey rest

theorem lastOfKey_subset (items : List Filter) : lastOfKey items ⊆ items := by
  induction items with
  | nil => exact List.Subset.refl []
  | cons item rest ih =>
      rw [lastOfKey]
      split
      · exact List.subset_cons_of_subset item ih
      · exact List.cons_subset_cons item ih

-- Items with keys of their own are all left.
theorem lastOfKey_eq_self {items : List Filter} (h : (items.map key).Nodup) : lastOfKey items = items := by
  induction items with
  | nil => rfl
  | cons item rest ih =>
      obtain ⟨hitem, hrest⟩ := List.nodup_cons.mp h
      have hany : ¬ rest.any (·.key == item.key) = true := by
        simpa using fun other hother hsame => hitem (List.mem_map.mpr ⟨other, hother, hsame⟩)
      rw [lastOfKey, if_neg hany, ih hrest]

section

variable {policy : CompositePolicy} {items : List Filter} {merged m : Document}

theorem exists_compileMerged (merged : Document)
    (h : ∀ item ∈ items, ∃ q, item.compile policy = .ok q) :
    ∃ m, compileMerged policy merged items = .ok m := by
  induction items generalizing merged with
  | nil => exact ⟨merged, rfl⟩
  | cons item rest ih =>
      obtain ⟨⟨q, hq⟩, hrest⟩ := List.forall_mem_cons.mp h
      simpa only [compileMerged, hq] using ih (insertAll merged q) hrest

-- What is merged first stays first.
theorem compileMerged_head {k : String} {v : Value} {rest : Document}
    (h : compileMerged policy ((k, v) :: rest) items = .ok m) : ∃ arg others, m = (k, arg) :: others := by
  induction items generalizing v rest with
  | nil =>
      cases h
      exact ⟨v, rest, rfl⟩
  | cons item others ih =>
      obtain ⟨q, hq, hothers⟩ := compileMerged_cons h
      obtain ⟨arg, rfl⟩ := compile_key hq
      by_cases hk : k = item.key
      · have hreplaced : compileMerged policy ((k, arg) :: rest) others = .ok m := by
          simpa [insertAll, OrderedMap.insert, hk] using hothers
        exact ih hreplaced
      · have hkept : compileMerged policy ((k, v) :: rest.insert item.key arg) others = .ok m := by
          simpa [insertAll, OrderedMap.insert, hk] using hothers
        exact ih hkept

theorem compileMerged_first {first : Filter} {rest : List Filter}
    (h : compileMerged policy [] (first :: rest) = .ok m) : ∃ arg others, m = (first.key, arg) :: others := by
  obtain ⟨q, hq, hrest⟩ := compileMerged_cons h
  obtain ⟨arg, rfl⟩ := compile_key hq
  exact compileMerged_head hrest

-- The entries of the merged document are the former ones whose keys no item has
-- and those of the items that are the last of their key.
theorem forall_mem_compileMerged {P : String × Value → Prop} (hd : OrderedMap.Distinct merged)
    (h : compileMerged policy merged items = .ok m) :
    (∀ entry ∈ m, P entry) ↔
      (∀ entry ∈ merged, (∀ item ∈ items, item.key ≠ entry.1) → P entry) ∧
        ∀ item ∈ lastOfKey items, ∀ entry, item.compile policy = .ok [entry] → P entry := by
  induction items generalizing merged with
  | nil =>
      cases h
      simp [lastOfKey]
  | cons item rest ih =>
      obtain ⟨q, hq, hrest⟩ := compileMerged_cons h
      obtain ⟨arg, rfl⟩ := compile_key hq
      have hinsert := OrderedMap.forall_mem_insert_iff_of_distinct hd item.key arg
        (P := fun entry => (∀ other ∈ rest, other.key ≠ entry.1) → P entry)
      have hown : (∀ entry, item.compile policy = .ok [entry] → P entry) ↔ P (item.key, arg) := by
        simp [hq]
      have hformer : (∀ entry ∈ merged, entry.1 ≠ item.key → (∀ other ∈ rest, other.key ≠ entry.1) → P entry) ↔
          ∀ entry ∈ merged, (∀ other ∈ item :: rest, other.key ≠ entry.1) → P entry := by
        simp only [List.forall_mem_cons, and_imp, ne_comm]
      rw [ih (hd.insert item.key arg) hrest, hinsert, hformer, lastOfKey]
      by_cases hany : rest.any (·.key == item.key) = true
      · -- a later item has the key, and its entry takes the place of this one
        obtain ⟨other, hother, hsame⟩ : ∃ other ∈ rest, other.key = item.key := by simpa using hany
        have hgone : (∀ other ∈ rest, other.key ≠ item.key) → P (item.key, arg) :=
          fun hnone => absurd hsame (hnone other hother)
        rw [if_pos hany]
        exact and_congr_left fun _ => and_iff_right hgone
      · have hlast : ∀ other ∈ rest, other.key ≠ item.key := by simpa using hany
        rw [if_neg hany, List.forall_mem_cons, hown, forall_prop_of_true hlast, and_assoc]
        exact and_left_comm

end

variable {path : String} {first : Filter} {rest : List Filter} {d : Document} {elements : List Document}
  {value : Filter → Document → Bool}

theorem Tells.decides {item : Filter} {element : Document} {b : Bool} (h : item.Tells element b)
    {entry : String × Value} (hitem : item.compile .strict = .ok [entry]) :
    Selector.entry element entry.1 entry.2 = .ok b := by
  have hholds := h.holds hitem
  rwa [Selector.holds, Selector.entries_singleton] at hholds

-- What is merged from the items tells of an element what the last items of their
-- keys tell of it together.
theorem entries_of_compileMerged {items : List Filter} {m : Document}
    (hm : compileMerged .strict [] items = .ok m)
    (hcompile : ∀ item ∈ items, ∃ q, item.compile .strict = .ok q)
    (htells : ∀ item ∈ items, ∀ element ∈ elements, item.Tells element (value item element)) :
    (∀ element ∈ elements, ∀ entry ∈ m, Selector.Decides element entry) ∧
      ∀ element ∈ elements, Selector.entries element m = .ok ((lastOfKey items).all (value · element)) := by
  have hdistinct : OrderedMap.Distinct ([] : Document) := List.nodup_nil
  have hdecides : ∀ element ∈ elements, ∀ entry ∈ m, Selector.Decides element entry := by
    intro element helement
    refine (forall_mem_compileMerged hdistinct hm).mpr ⟨by simp, fun item hitem entry hentry => ?_⟩
    exact ⟨_, (htells item (lastOfKey_subset _ hitem) element helement).decides hentry⟩
  refine ⟨hdecides, fun element helement => ?_⟩
  obtain ⟨b, hb, hiff⟩ := Selector.entries_of_decides (hdecides element helement)
  rw [hb, Except.ok.injEq, Bool.eq_iff_iff, hiff, forall_mem_compileMerged hdistinct hm, List.all_eq_true,
    and_iff_right (by simp)]
  refine forall₂_congr fun item hitem => ?_
  have hmem := lastOfKey_subset _ hitem
  obtain ⟨q, hq⟩ := hcompile item hmem
  obtain ⟨arg, rfl⟩ := compile_key hq
  have hown := (htells item hmem element helement).decides hq
  simp [hq, Selector.Passes, hown]

-- On an array of documents for which every item can be decided, an element match
-- asks for an element that satisfies the last item of each key; but where the
-- first item has an operator for a key, it fails on every array with an element.
-- So it asks for an element that satisfies all items where no two items share a
-- key and the first has a path for its key.
theorem holds_elemMatch (hpath : Text.startsWithChar '$' path = false)
    (hcompile : ∀ item ∈ first :: rest, ∃ q, item.compile .strict = .ok q)
    (hd : d.getPath? path = some (.array (elements.map .document)))
    (htells : ∀ item ∈ first :: rest, ∀ element ∈ elements, item.Tells element (value item element)) :
    ∃ q, (Filter.elemMatch path (first :: rest)).compile .strict = .ok q ∧
      (Selector.holds d q =
        if Text.startsWithChar '$' first.key && !elements.isEmpty then .error (.unknownOperator first.key)
        else .ok (elements.any fun element => (lastOfKey (first :: rest)).all (value · element))) ∧
      (Text.startsWithChar '$' first.key = false → ((first :: rest).map key).Nodup →
        Selector.holds d q = .ok (elements.any fun element => (first :: rest).all (value · element))) := by
  obtain ⟨m, hm⟩ := exists_compileMerged [] hcompile
  have hanswer := entries_of_compileMerged hm hcompile htells
  -- the first item's key is the first key of the merged document
  obtain ⟨arg, others, rfl⟩ := compileMerged_first hm
  have hplain : Text.startsWithChar '$' first.key = false →
      Selector.holds d (operatorOn path "$elemMatch" (.document ((first.key, arg) :: others))) =
        .ok (elements.any fun element => (lastOfKey (first :: rest)).all (value · element)) := fun hkey =>
    Selector.holds_elemMatch_of_decided hpath hd (by rw [Document.isOperator_cons, hkey]) hanswer.2
  refine ⟨operatorOn path "$elemMatch" (.document ((first.key, arg) :: others)), by simp only [compile, hm], ?_,
    fun hkey hnodup => ?_⟩
  · cases hkey : Text.startsWithChar '$' first.key with
    | false => exact hplain hkey
    | true =>
        have hfirst : ∀ element ∈ elements, Selector.Decides element (first.key, arg) :=
          fun element helement => hanswer.1 element helement _ List.mem_cons_self
        rw [operatorOn, Selector.holds_elemMatch_of_operator hpath hd hkey hfirst]
        cases elements <;> rfl
  · rw [hplain hkey, lastOfKey_eq_self hnodup]

-- Documents as the elements of an array.
def dims (elements : List Document) : Document := [("dims", .array (elements.map .document))]

def company : Filter := .field "kind" (.equal (.string "company"))

def atLeastFive : Filter := .field "v" (.atLeast (.int32 5))

def atMostNine : Filter := .field "v" (.atMost (.int32 9))

def acme : Document := [("kind", .string "company"), ("v", .int32 1)]

-- Of the two bounds the upper one is left, and 1 is within it.
theorem holds_elemMatch_companyWithin :
    (∃ q, (Filter.elemMatch "dims" [company, atLeastFive, atMostNine]).compile .strict = .ok q ∧
      Selector.holds (dims [acme]) q = .ok true) ∧
    ∃ q, (Filter.elemMatch "dims" [company, atLeastFive]).compile .strict = .ok q ∧
      Selector.holds (dims [acme]) q = .ok false := by
  have hcompile : ∀ item ∈ [company, atLeastFive, atMostNine], ∃ q, item.compile .strict = .ok q := by
    simp [company, atLeastFive, atMostNine, compile, compileCondition]
  have htells : ∀ item ∈ [company, atLeastFive, atMostNine], ∀ element ∈ [acme],
      item.Tells element (item.op? != some .gte) := by
    simp only [List.forall_mem_cons, List.not_mem_nil, false_implies, implies_true, and_true]
    exact ⟨⟨_, rfl, rfl⟩, ⟨_, rfl, rfl⟩, ⟨_, rfl, rfl⟩⟩
  have hd : (dims [acme]).getPath? "dims" = some (.array ([acme].map .document)) := rfl
  have hfewer : [company, atLeastFive] ⊆ [company, atLeastFive, atMostNine] :=
    List.subset_append_left [company, atLeastFive] [atMostNine]
  constructor
  · obtain ⟨q, hq, hholds, _⟩ := holds_elemMatch rfl hcompile hd htells
    exact ⟨q, hq, hholds⟩
  · obtain ⟨q, hq, _, hholds⟩ := holds_elemMatch rfl (fun item hitem => hcompile item (hfewer hitem)) hd
      (fun item hitem => htells item (hfewer hitem))
    exact ⟨q, hq, hholds rfl (by decide)⟩

-- Whether the element match asks for an element that satisfies every item, each
-- by its own query document.
def Conjoins (path : String) (items : List Filter) (d : Document) : Prop :=
  ∀ (elements : List Document) (value : Filter → Document → Bool),
    d.getPath? path = some (.array (elements.map .document)) →
    (∀ item ∈ items, ∀ element ∈ elements, item.Tells element (value item element)) →
      (Filter.elemMatch path items).Tells d (elements.any fun element => items.all (value · element))

-- Of two bounds on one path the lower is lost, and the two in a range fail.
theorem elemMatch_not_conjoins :
    ¬ Conjoins "dims" [atLeastFive, atMostNine] (dims [[("v", .int32 1)]]) ∧
      ¬ Conjoins "dims" [.field "v" (.within (.int32 5) (.int32 9))] (dims [[("v", .int32 7)]]) := by
  constructor
  · intro h
    obtain ⟨q, hq, hholds⟩ := h [[("v", .int32 1)]] (fun item _ => item.op? != some .gte) rfl (by
      simp only [List.forall_mem_cons, List.not_mem_nil, false_implies, implies_true, and_true]
      exact ⟨⟨_, rfl, rfl⟩, ⟨_, rfl, rfl⟩⟩)
    cases hq
    exact absurd (show Except.ok true = Except.ok false from hholds) (by simp)
  · intro h
    obtain ⟨q, hq, hholds⟩ := h [[("v", .int32 7)]] (fun _ _ => true) rfl (by
      simp only [List.forall_mem_cons, List.not_mem_nil, false_implies, implies_true, and_true]
      exact ⟨_, rfl, rfl⟩)
    cases hq
    exact absurd (show Except.error (StoreError.unknownOperator "$and") = Except.ok true from hholds) (by simp)

end DocStore.Filter
