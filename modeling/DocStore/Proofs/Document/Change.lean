import DocStore.Proofs.Document.BelowId
import DocStore.Proofs.Document.Edit
import Mathlib.Data.List.Induction

namespace DocStore

theorem Value.sameOption_cases {a b : Option Value} (h : Value.sameOption a b = true) :
    (a = none ∧ b = none) ∨ ∃ v w, a = some v ∧ b = some w ∧ v.same w = true := by
  cases a with
  | none =>
      cases b with
      | none => exact .inl ⟨rfl, rfl⟩
      | some w => cases h
  | some v =>
      cases b with
      | none => cases h
      | some w => exact .inr ⟨v, w, rfl, rfl, h⟩

namespace Document

-- The value at the end of a way that writing would take. A way leads through documents alone, and past
-- anything else as if it were an empty one.
def found (d : Document) : List String → Option Value
  | [] => none
  | [last] => d.get? last
  | segment :: rest => (d.subdocument segment).found rest

variable {d e after : Document} {key : String} {rest way p q : List String} {v : Value} {left : Option Value}

theorem found_cons (h : rest ≠ []) : d.found (key :: rest) = (d.subdocument key).found rest := by
  cases rest with
  | nil => exact absurd rfl h
  | cons next more => rfl

theorem subdocument_congr (h : e.get? key = d.get? key) : e.subdocument key = d.subdocument key := by
  simp only [subdocument, document?, h]

theorem found_congr (h : e.get? key = d.get? key) (rest : List String) :
    e.found (key :: rest) = d.found (key :: rest) := by
  cases rest with
  | nil => exact h
  | cons next more => exact congrArg (found · (next :: more)) (subdocument_congr h)

theorem subdocument_insert_self (d : Document) (key : String) (inner : Document) :
    subdocument (d.insert key (.document inner)) key = inner :=
  subdocument_of_document (OrderedMap.get?_insert_self d key _)

-- Writing tells whether it found something else than it wrote.
theorem put_changed (d : Document) (v : Value) (h : way ≠ []) :
    (d.put way v).2 = !Value.sameOption (d.found way) (some v) := by
  induction way, h using List.recNeNil generalizing d with
  | singleton key => rfl
  | cons key rest hrest ih =>
      cases rest with
      | nil => exact absurd rfl hrest
      | cons next more => exact ih (d.subdocument key)

-- Removing tells whether it found something.
theorem drop_changed (d : Document) (h : way ≠ []) : (d.drop way).2 = (d.found way).isSome := by
  induction way, h using List.recNeNil generalizing d with
  | singleton key => rfl
  | cons key rest hrest ih =>
      cases rest with
      | nil => exact absurd rfl hrest
      | cons next more => exact ih (d.subdocument key)

-- Whether a document has been altered at the end of a way alone, with this value left there or none.
-- Everything on the way has become a document.
inductive Altered : List String → Document → Document → Option Value → Prop where
  | last {d after : Document} {key : String} {left : Option Value} (hafter : (Value.document after).WellFormed)
      (hleft : after.get? key = left) (hothers : ∀ other, key ≠ other → after.get? other = d.get? other) :
      Altered [key] d after left
  | inside {d inner : Document} {key : String} {rest : List String} {left : Option Value}
      (hd : (Value.document d).WellFormed) (h : Altered rest (d.subdocument key) inner left) :
      Altered (key :: rest) d (d.insert key (.document inner)) left

theorem altered_put (hd : (Value.document d).WellFormed) (hv : v.WellFormed) (h : way ≠ []) :
    Altered way d (d.put way v).1 (some v) := by
  induction way, h using List.recNeNil generalizing d with
  | singleton key =>
      exact .last (wellFormed_insert hd key hv) (OrderedMap.get?_insert_self d key v)
        fun other hother => get?_put_of_ne d hother [] v
  | cons key rest hrest ih =>
      rw [put_cons d key hrest]
      exact .inside hd (ih (subdocument_wellFormed hd key))

theorem altered_drop (hd : (Value.document d).WellFormed) (h : way ≠ []) :
    Altered way d (d.drop way).1 none := by
  induction way, h using List.recNeNil generalizing d with
  | singleton key =>
      exact .last (wellFormed_of_sublist (OrderedMap.erase_sublist d key) hd)
        (OrderedMap.get?_erase_self hd.1 key) fun other hother => get?_drop_of_ne d hother []
  | cons key rest hrest ih =>
      rw [drop_cons d key hrest]
      exact .inside hd (ih (subdocument_wellFormed hd key))

theorem Altered.ne_nil (h : Altered way d after left) : way ≠ [] := by
  cases h <;> exact List.cons_ne_nil _ _

theorem Altered.wellFormed (h : Altered way d after left) : (Value.document after).WellFormed := by
  induction h with
  | last hafter _ _ => exact hafter
  | inside hd _ ih => exact wellFormed_insert hd _ ih

theorem Altered.found_self (h : Altered way d after left) : after.found way = left := by
  induction h with
  | last _ hleft _ => exact hleft
  | inside _ hinside ih => rw [found_cons hinside.ne_nil, subdocument_insert_self, ih]

-- What is found along ways that neither lead to each other nor through each other is not altered.
theorem Altered.found_of_apart (h : Altered p d after left) (hpq : ¬ p <+: q) (hqp : ¬ q <+: p) :
    after.found q = d.found q := by
  obtain _ | ⟨first, more⟩ := q
  · exact absurd List.nil_prefix hqp
  induction h generalizing first more with
  | @last d after key left _ _ hothers =>
      have hne : key ≠ first := by
        rintro rfl
        exact hpq (List.cons_prefix_cons.mpr ⟨rfl, List.nil_prefix⟩)
      exact found_congr (hothers first hne) more
  | @inside d inner key rest left _ hinside ih =>
      by_cases hsame : key = first
      · subst hsame
        have hlonger : ¬ rest <+: more := fun hle => hpq (List.cons_prefix_cons.mpr ⟨rfl, hle⟩)
        have hshorter : ¬ more <+: rest := fun hle => hqp (List.cons_prefix_cons.mpr ⟨rfl, hle⟩)
        obtain _ | ⟨next, others⟩ := more
        · exact absurd List.nil_prefix hshorter
        · have hmore := List.cons_ne_nil next others
          rw [found_cons hmore, found_cons hmore, subdocument_insert_self]
          exact ih next others hlonger hshorter
      · exact found_congr (OrderedMap.get?_insert_of_ne d _ hsame) more

-- Documents that are the same have the same at each key.
theorem sameOption_get? (hd : (Value.document d).WellFormed) (he : (Value.document e).WellFormed)
    (h : d.same e = true) (key : String) : Value.sameOption (d.get? key) (e.get? key) = true := by
  obtain ⟨hlength, hfields⟩ : d.length = e.length ∧ Value.sameFields d e = true := by
    simpa [same, Value.same] using h
  cases hown : d.get? key with
  | some a =>
      obtain ⟨b, hb, hsame⟩ := Value.sameFields_iff.mp hfields _ (OrderedMap.mem_of_get? hown)
      rw [hb]
      exact hsame
  | none =>
      cases hother : e.get? key with
      | none => rfl
      | some b =>
          obtain ⟨a, ha, _⟩ :=
            Value.get?_of_sameFields hd.1 he.1 hlength hfields (OrderedMap.mem_of_get? hother)
          cases hown.symm.trans ha

theorem same_subdocument (hd : (Value.document d).WellFormed) (he : (Value.document e).WellFormed)
    (h : d.same e = true) (key : String) : (d.subdocument key).same (e.subdocument key) = true := by
  rcases Value.sameOption_cases (sameOption_get? hd he h key) with ⟨hnone, hnone'⟩ | ⟨a, b, ha, hb, hsame⟩
  · have hown : d.subdocument key = [] := subdocument_eq_nil (by simp [hnone])
    have hother : e.subdocument key = [] := subdocument_eq_nil (by simp [hnone'])
    rw [hown, hother]
    rfl
  · have hkind := Value.exists_document_of_same hsame
    by_cases hdocument : ∃ fields, a = .document fields
    · obtain ⟨fields, rfl⟩ := hdocument
      obtain ⟨others, rfl⟩ := hkind.mp ⟨fields, rfl⟩
      rw [subdocument_of_document ha, subdocument_of_document hb]
      exact hsame
    · have hown : d.subdocument key = [] := subdocument_eq_nil fun inner hinner =>
        hdocument ⟨inner, Option.some.inj (ha.symm.trans hinner)⟩
      have hother : e.subdocument key = [] := subdocument_eq_nil fun inner hinner =>
        hdocument (hkind.mpr ⟨inner, Option.some.inj (hb.symm.trans hinner)⟩)
      rw [hown, hother]
      rfl

theorem sameOption_found (hd : (Value.document d).WellFormed) (he : (Value.document e).WellFormed)
    (h : d.same e = true) (way : List String) : Value.sameOption (d.found way) (e.found way) = true := by
  induction way generalizing d e with
  | nil => rfl
  | cons segment rest ih =>
      cases rest with
      | nil => exact sameOption_get? hd he h segment
      | cons next more =>
          exact ih (subdocument_wellFormed hd segment) (subdocument_wellFormed he segment)
            (same_subdocument hd he h segment)

-- What some operators make of a document, each at one of the paths. Where no path leads to another or
-- through it, what counts as a change can be found at one of them.
structure Touches (paths : List String) (d after : Document) (changed : Bool) : Prop where
  wellFormed : (Value.document after).WellFormed
  kept : ∀ q, (∀ p ∈ paths, Path.Apart p q) → after.found (Path.segments q) = d.found (Path.segments q)
  differs : paths.Pairwise Path.Apart → changed = true → ∃ p ∈ paths,
    Value.sameOption (d.found (Path.segments p)) (after.found (Path.segments p)) = false

section

variable {op path : String} {fields update middle : Document} {first second : List String}
  {result : Document × Bool} {changed later : Bool}

theorem Touches.refl (hd : (Value.document d).WellFormed) : Touches [] d d false where
  wellFormed := hd
  kept _ _ := rfl
  differs _ hchanged := by cases hchanged

theorem Touches.trans (hfirst : Touches first d middle changed) (hsecond : Touches second middle after later) :
    Touches (first ++ second) d after (changed || later) where
  wellFormed := hsecond.wellFormed
  kept q hapart := by
    obtain ⟨hbefore, hthen⟩ := List.forall_mem_append.mp hapart
    exact (hsecond.kept q hthen).trans (hfirst.kept q hbefore)
  differs hapart hchanged := by
    obtain ⟨hbefore, hthen, hbetween⟩ := List.pairwise_append.mp hapart
    rcases Bool.or_eq_true_iff.mp hchanged with hnow | hlater
    · obtain ⟨p, hp, hdiffers⟩ := hfirst.differs hbefore hnow
      have hkept := hsecond.kept p fun q hq => (hbetween p hp q hq).symm
      exact ⟨p, List.mem_append_left second hp, by rw [hkept, hdiffers]⟩
    · obtain ⟨q, hq, hdiffers⟩ := hsecond.differs hthen hlater
      have hkept := hfirst.kept q fun p hp => hbetween p hp q hq
      exact ⟨q, List.mem_append_right first hq, by rw [← hkept, hdiffers]⟩

theorem Altered.touches (h : Altered (Path.segments path) d after left)
    (hchanged : changed = true → Value.sameOption (d.found (Path.segments path)) left = false) :
    Touches [path] d after changed where
  wellFormed := h.wellFormed
  kept q hapart := by
    obtain ⟨hlonger, hshorter⟩ := hapart path List.mem_cons_self
    exact h.found_of_apart hlonger hshorter
  differs _ htrue := ⟨path, List.mem_cons_self, by rw [h.found_self, hchanged htrue]⟩

theorem touches_setPath (hd : (Value.document d).WellFormed) (hv : v.WellFormed) (path : String) :
    Touches [path] d (d.setPath path v).1 (d.setPath path v).2 := by
  have hpath := Path.segments_ne_nil path
  refine (altered_put hd hv hpath).touches fun hchanged => ?_
  rw [setPath, put_changed d v hpath] at hchanged
  simpa using hchanged

theorem touches_unsetPath (hd : (Value.document d).WellFormed) (path : String) :
    Touches [path] d (d.unsetPath path).1 (d.unsetPath path).2 := by
  have hpath := Path.segments_ne_nil path
  refine (altered_drop hd hpath).touches fun hchanged => ?_
  rw [unsetPath, drop_changed d hpath] at hchanged
  obtain ⟨v, hv⟩ := Option.isSome_iff_exists.mp hchanged
  rw [hv]
  rfl

theorem applyOperator_touches (hd : (Value.document d).WellFormed) (hv : v.WellFormed)
    (h : applyOperator op path v d = .ok result) : Touches [path] d result.1 result.2 := by
  rcases applyOperator_cases h with ⟨_, rfl⟩ | ⟨w, hw, rfl⟩ | ⟨_, rfl⟩
  · exact ⟨hd, fun _ _ => rfl, fun _ hchanged => by cases hchanged⟩
  · refine touches_setPath hd ?_ path
    rcases hw with rfl | hleaf
    · exact hv
    · exact Value.wellFormed_of_isLeaf hleaf
  · exact touches_unsetPath hd path

theorem applyFields_touches (hd : (Value.document d).WellFormed) (hfields : ∀ field ∈ fields, field.2.WellFormed)
    (h : (applyFields op fields d).outcome = .ok changed) :
    Touches fields.keys d (applyFields op fields d).document changed := by
  induction fields generalizing d changed with
  | nil =>
      cases h
      exact Touches.refl hd
  | cons field rest ih =>
      obtain ⟨path, v⟩ := field
      obtain ⟨hv, hrest⟩ := List.forall_mem_cons.mp hfields
      unfold applyFields at h ⊢
      split at h
      · cases h
      · next next own hstep =>
          obtain ⟨others, hothers, rfl⟩ := Except.map_eq_ok_iff.mp h
          have hfirst := applyOperator_touches hd hv hstep
          exact hfirst.trans (ih hfirst.wellFormed hrest hothers)

theorem applyUpdate_touches (hd : (Value.document d).WellFormed) (hupdate : ∀ entry ∈ update, entry.2.WellFormed)
    (h : (update.applyUpdate d).outcome = .ok changed) :
    Touches update.paths d (update.applyUpdate d).document changed := by
  induction update generalizing d changed with
  | nil =>
      cases h
      exact Touches.refl hd
  | cons entry rest ih =>
      obtain ⟨op, arg⟩ := entry
      obtain ⟨harg, hrest⟩ := List.forall_mem_cons.mp hupdate
      cases arg with
      | document fields =>
          have hfields := (Value.wellFormed_document_iff.mp harg).2
          unfold applyUpdate at h ⊢
          dsimp only at h ⊢
          split at h
          · cases h
          · next own hfirst =>
              obtain ⟨others, hothers, rfl⟩ := Except.map_eq_ok_iff.mp h
              have htouches := applyFields_touches hd hfields hfirst
              exact htouches.trans (ih htouches.wellFormed hrest hothers)
      | _ => cases h

-- An update whose paths do not lead to each other or through each other makes a difference wherever
-- it counts as a change.
theorem not_same_applyUpdate (hd : (Value.document d).WellFormed) (hupdate : (Value.document update).WellFormed)
    (hapart : update.paths.Pairwise Path.Apart) (h : (update.applyUpdate d).outcome = .ok true) :
    d.same (update.applyUpdate d).document = false := by
  have htouches := applyUpdate_touches hd (Value.wellFormed_document_iff.mp hupdate).2 h
  obtain ⟨p, _, hdiffers⟩ := htouches.differs hapart rfl
  rw [Bool.eq_false_iff]
  intro hsame
  have hfound := sameOption_found hd htouches.wellFormed hsame (Path.segments p)
  cases hdiffers.symm.trans hfound

end

end Document

end DocStore
