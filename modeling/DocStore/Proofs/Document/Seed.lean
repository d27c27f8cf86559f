import DocStore.Proofs.Document.Edit
import DocStore.Proofs.OrderedMap
import DocStore.Proofs.Selector.EqualityTerms
import Mathlib.Data.List.Pairwise

namespace DocStore

namespace Text

-- There is one more piece than there are separators.
theorem length_splitAt (separator : Char → Bool) (cs : List Char) :
    (splitAt separator cs).length = cs.countP separator + 1 := by
  induction cs with
  | nil => rfl
  | cons c rest ih =>
      unfold splitAt
      by_cases hc : separator c = true
      · rw [if_pos hc, List.countP_cons_of_pos hc, List.length_cons, ih]
      · rw [if_neg hc, List.countP_cons_of_neg hc, ← ih]
        cases hpieces : splitAt separator rest with
        | nil => exact absurd hpieces (splitAt_ne_nil separator rest)
        | cons first others => rfl

end Text

namespace Path

theorem length_segments (path : String) : (segments path).length = path.toList.countP (· == '.') + 1 := by
  rw [segments, Text.splitOnChar, List.length_map, Text.length_splitAt]

theorem segments_of_isTopField {path : String} (h : Document.isTopField path = true) :
    segments path = [path] := by
  have hundotted : '.' ∉ path.toList := by
    simp only [Document.isTopField, Bool.and_eq_true, Bool.not_eq_true'] at h
    simpa using h.2
  have hlength : (segments path).length = 1 := by
    have hnone : path.toList.countP (· == '.') = 0 :=
      List.countP_eq_zero.mpr fun c hc hdot => hundotted ((beq_iff_eq.mp hdot : c = '.') ▸ hc)
    rw [length_segments, hnone]
  obtain ⟨key, hkey⟩ := List.length_eq_one_iff.mp hlength
  rw [hkey, eq_of_segments_eq_singleton hkey]

theorem exists_segments_of_not_isTopField {path : String} (hpath : Text.startsWithChar '$' path = false)
    (h : Document.isTopField path = false) : ∃ first next rest, segments path = first :: next :: rest := by
  have hdotted : '.' ∈ path.toList := by simpa [Document.isTopField, hpath] using h
  have hlength : 2 ≤ (segments path).length := by
    rw [length_segments]
    exact Nat.succ_le_succ (List.countP_pos_iff.mpr ⟨'.', hdotted, rfl⟩)
  match hsegments : segments path with
  | [] => simp [hsegments] at hlength
  | [_] => simp [hsegments] at hlength
  | first :: next :: rest => exact ⟨first, next, rest, rfl⟩

instance : Std.Symm Apart where
  symm _ _ h := ⟨h.2, h.1⟩

theorem apart_irrefl (p : String) : ¬ Apart p p := fun h => h.1 (List.prefix_refl _)

end Path

namespace Document

section

variable {d : Document} {p q key first : String} {rest : List String}

-- Two ways that part at the first field do not come to an array together.
theorem not_meetInArray_of_isTopField (h : isTopField q = true) (hapart : Path.Apart p q) :
    ¬ d.MeetInArray p q := by
  rintro ⟨lead, items, hp, hq, harray⟩
  rw [Path.segments_of_isTopField h] at hq
  rcases List.prefix_cons_iff.mp hq with rfl | ⟨more, rfl, hmore⟩
  · cases harray
  · rw [List.prefix_nil.mp hmore] at hp
    exact hapart.2 (Path.segments_of_isTopField h ▸ hp)

-- A way whose first field is missing leads nowhere.
theorem getPath?_of_get?_none (hq : Path.segments q = first :: rest) (h : d.get? first = none) :
    d.getPath? q = none := by
  refine getPath?_eq_none_of_descend ?_
  rw [hq, Value.descend_document_cons, h, Option.bind_none]

theorem not_meetInArray_of_get?_none (hq : Path.segments q = first :: rest) (h : d.get? first = none) :
    ¬ d.MeetInArray p q := by
  rintro ⟨lead, items, _, hlead, harray⟩
  rw [hq] at hlead
  rcases List.prefix_cons_iff.mp hlead with rfl | ⟨more, rfl, _⟩
  · cases harray
  · rw [Value.descend_document_cons, h] at harray
    cases harray

theorem getPath?_of_not_readable (h : ¬ Path.Readable q) (d : Document) : d.getPath? q = none := by
  unfold getPath?
  dsimp only
  refine if_pos (Decidable.byContradiction fun hlimits => h ?_)
  simp only [Bool.or_eq_true, decide_eq_true_eq, not_or, Bool.not_eq_true, Nat.not_lt] at hlimits
  exact ⟨hlimits.1.1, hlimits.1.2, hlimits.2⟩

theorem get?_filter_of_ne (hne : key ≠ first) (d : Document) :
    OrderedMap.get? (d.filter (·.1 != first)) key = d.get? key := by
  induction d with
  | nil => rfl
  | cons field others ih =>
      obtain ⟨own, v⟩ := field
      by_cases hown : own = first
      · subst hown
        rw [List.filter_cons_of_neg (by simp), ih, OrderedMap.get?_cons, if_neg (Ne.symm hne)]
      · rw [List.filter_cons_of_pos (by simpa using hown), OrderedMap.get?_cons, OrderedMap.get?_cons, ih]

-- To give a document an identifier that it lacks shows at the identifier alone.
theorem getPath?_withId (h : q ≠ "_id" ∨ (d.get? "_id").isSome = true) (fresh : ObjectId) :
    (d.withId none fresh).getPath? q = d.getPath? q := by
  refine getPath?_congr ?_
  cases hq : Path.segments q with
  | nil => exact absurd hq (Path.segments_ne_nil q)
  | cons first rest =>
      rw [Value.descend_document_cons, Value.descend_document_cons]
      by_cases hfirst : first = "_id"
      · subst hfirst
        have hown : (d.withId none fresh).get? "_id" = some ((d.get? "_id").getD (.objectId fresh)) := rfl
        rw [hown]
        cases hid : d.get? "_id" with
        | some id => rfl
        | none =>
            -- nothing is below the new identifier
            have hrest : rest ≠ [] := by
              rintro rfl
              rcases h with hne | hsome
              · exact hne (Path.eq_of_segments_eq_singleton hq)
              · simp [hid] at hsome
            exact Value.descend_eq_none rfl rfl hrest
      · have hother : (d.withId none fresh).get? first = d.get? first := by
          rw [withId, OrderedMap.get?_cons, if_neg (Ne.symm hfirst), get?_filter_of_ne hfirst]
        rw [hother]

end

section

variable {selector : Document} {entry : String × Value} {v : Value}

-- The fields that an upsert takes over from a query document of equality terms.
def carried (selector : Document) : Document :=
  selector.filterMap fun entry =>
    if isTopField entry.1 then entry.2.demanded?.map fun v => (entry.1, v) else none

theorem carried_cons_of_isTopField {key : String} {arg : Value} (htop : isTopField key = true)
    (hv : arg.demanded? = some v) (rest : Document) :
    carried ((key, arg) :: rest) = (key, v) :: carried rest := by
  simp [carried, htop, hv]

theorem carried_cons_of_not_isTopField {key : String} (htop : isTopField key = false) (arg : Value)
    (rest : Document) : carried ((key, arg) :: rest) = carried rest := by
  simp [carried, htop]

theorem mem_carried {field : String × Value} : field ∈ carried selector ↔
    isTopField field.1 = true ∧ ∃ arg, (field.1, arg) ∈ selector ∧ arg.demanded? = some field.2 := by
  obtain ⟨key, v⟩ := field
  simp only [carried, List.mem_filterMap]
  constructor
  · rintro ⟨entry, hentry, hfield⟩
    split at hfield
    · next htop =>
        obtain ⟨own, hown, hsame⟩ := Option.map_eq_some_iff.mp hfield
        cases hsame
        exact ⟨htop, entry.2, hentry, hown⟩
    · cases hfield
  · rintro ⟨htop, arg, hentry, hv⟩
    exact ⟨(key, arg), hentry, by simp [htop, hv]⟩

theorem upsertSeed_eq (h : ∀ entry ∈ selector, ∃ v, entry.2.demanded? = some v) :
    selector.upsertSeed =
      (carried selector).foldl (fun seed field => OrderedMap.insert seed field.1 field.2) [] := by
  unfold upsertSeed
  generalize ([] : Document) = seed
  induction selector generalizing seed with
  | nil => rfl
  | cons entry rest ih =>
      obtain ⟨key, arg⟩ := entry
      obtain ⟨⟨v, hv⟩, hrest⟩ := List.forall_mem_cons.mp h
      rw [List.foldl_cons, ih hrest]
      cases htop : isTopField key with
      | false => simp [carried_cons_of_not_isTopField htop, htop]
      | true =>
          rw [carried_cons_of_isTopField htop hv, List.foldl_cons]
          congr 1
          simp only [htop, Bool.not_true, Bool.false_eq_true, if_false]
          rcases Value.demanded_cases hv with rfl | ⟨rfl, hdata⟩
          · rfl
          · cases arg with
            | document fields =>
                have hplain : isOperator fields = false := by simpa [Value.isData] using hdata
                simp [hplain]
            | _ => rfl

theorem keys_carried_sublist (h : ∀ entry ∈ selector, ∃ v, entry.2.demanded? = some v) :
    (OrderedMap.keys (carried selector)).Sublist (OrderedMap.keys selector) := by
  induction selector with
  | nil => exact List.Sublist.refl []
  | cons entry rest ih =>
      obtain ⟨key, arg⟩ := entry
      obtain ⟨⟨v, hv⟩, hrest⟩ := List.forall_mem_cons.mp h
      cases htop : isTopField key with
      | false =>
          rw [carried_cons_of_not_isTopField htop]
          exact (ih hrest).cons key
      | true =>
          rw [carried_cons_of_isTopField htop hv]
          exact (ih hrest).cons_cons key

end

section

variable {selector fields : Document} {entry : String × Value} {v : Value} {p : String}

-- A term on a field of its own is taken over as it stands.
theorem get?_upsertSeed (h : Selector.EqualityTerms selector) (hentry : entry ∈ selector)
    (htop : isTopField entry.1 = true) (hv : entry.2.demanded? = some v) :
    selector.upsertSeed.get? entry.1 = some v := by
  have hkeys : (OrderedMap.keys (carried selector)).Nodup := by
    have hnodup : (OrderedMap.keys selector).Nodup := h.apart.imp fun hapart => by
      rintro rfl
      exact Path.apart_irrefl _ hapart
    exact hnodup.sublist (keys_carried_sublist h.demanded)
  have hfield : (entry.1, v) ∈ carried selector := mem_carried.mpr ⟨htop, entry.2, hentry, hv⟩
  rw [upsertSeed_eq h.demanded]
  exact OrderedMap.get?_foldl_insert_of_mem hkeys hfield []

-- The first field on the way of a path with a dot is none that is taken over, for it would lead to the path.
theorem get?_upsertSeed_of_not_isTopField (h : Selector.EqualityTerms selector) (hentry : entry ∈ selector)
    {first next : String} {rest : List String} (hsegments : Path.segments entry.1 = first :: next :: rest) :
    selector.upsertSeed.get? first = none := by
  have hmissing : first ∉ (carried selector).map (·.1) := by
    rintro hmem
    obtain ⟨field, hfield, rfl⟩ := List.mem_map.mp hmem
    obtain ⟨htop, arg, hother, _⟩ := mem_carried.mp hfield
    have hown := Path.segments_of_isTopField htop
    have hne : field.1 ≠ entry.1 := fun hsame => by simp [← hsame, hown] at hsegments
    have hapart : Path.Apart field.1 entry.1 :=
      h.apart.forall (List.mem_map_of_mem hother) (List.mem_map_of_mem hentry) hne
    rw [Path.Apart, hown, hsegments] at hapart
    exact hapart.1 (List.cons_prefix_cons.mpr ⟨rfl, List.nil_prefix⟩)
  rw [upsertSeed_eq h.demanded, OrderedMap.get?_foldl_insert_of_not_mem hmissing]
  rfl

end

end Document

end DocStore
