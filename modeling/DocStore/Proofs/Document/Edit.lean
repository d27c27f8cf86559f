import DocStore.Proofs.Document.Identifier
import DocStore.Proofs.Document.Projection
import DocStore.Proofs.Outcome

namespace DocStore

theorem OrderedMap.insert_eq_self_iff {α : Type} (m : OrderedMap α) (key : String) (v : α) :
    m.insert key v = m ↔ m.get? key = some v := by
  induction m with
  | nil => simp [insert]
  | cons entry rest ih =>
      obtain ⟨k, w⟩ := entry
      by_cases hk : k = key
      · simp [insert, get?, hk, eq_comm]
      · simp [insert, get?, hk, ih]

namespace Value

-- Whether there are documents all along a way, short of its end.
def DocumentsTo (v : Value) (way : List String) : Prop :=
  ∀ lead, lead <+: way → lead ≠ way → ∃ fields, v.descend lead = some (.document fields)

variable {d : Document} {key : String} {rest p q lead : List String}

theorem documentsTo_singleton (d : Document) (key : String) : (document d).DocumentsTo [key] := by
  intro lead hlead hne
  obtain _ | ⟨first, more⟩ := lead
  · exact ⟨d, rfl⟩
  · obtain ⟨rfl, hmore⟩ := List.cons_prefix_cons.mp hlead
    rw [List.prefix_nil.mp hmore] at hne
    exact absurd rfl hne

theorem documentsTo_cons_iff (h : rest ≠ []) : (document d).DocumentsTo (key :: rest) ↔
    ∃ inner, d.get? key = some (.document inner) ∧ (document inner).DocumentsTo rest := by
  constructor
  · intro hall
    have hfirst : ([key] : List String) ≠ key :: rest := fun he => h (List.cons.inj he).2.symm
    obtain ⟨inner, hinner⟩ := hall [key] (List.cons_prefix_cons.mpr ⟨rfl, List.nil_prefix⟩) hfirst
    rw [descend_document_cons, Option.bind_eq_some_iff] at hinner
    obtain ⟨w, hw, hinner⟩ := hinner
    have hown : w = .document inner := by cases w <;> exact Option.some.inj hinner
    subst hown
    refine ⟨inner, hw, fun lead hlead hne => ?_⟩
    have hlonger : key :: lead ≠ key :: rest := fun he => hne (List.cons.inj he).2
    obtain ⟨fields, hfields⟩ := hall (key :: lead) (List.cons_prefix_cons.mpr ⟨rfl, hlead⟩) hlonger
    rw [descend_document_cons, hw] at hfields
    exact ⟨fields, hfields⟩
  · rintro ⟨inner, hinner, hall⟩ lead hlead hne
    obtain _ | ⟨first, more⟩ := lead
    · exact ⟨d, rfl⟩
    · obtain ⟨rfl, hmore⟩ := List.cons_prefix_cons.mp hlead
      have hshort : more ≠ rest := fun he => hne (congrArg (first :: ·) he)
      obtain ⟨fields, hfields⟩ := hall more hmore hshort
      refine ⟨fields, ?_⟩
      rw [descend_document_cons, hinner]
      exact hfields

theorem MeetInArray.mono {v : Value} (h : v.MeetInArray p lead) (hlead : lead <+: q) : v.MeetInArray p q := by
  obtain ⟨way, items, hp, hway, harray⟩ := h
  exact ⟨way, items, hp, hway.trans hlead, harray⟩

end Value

namespace Document

theorem drop_cons (d : Document) (segment : String) {rest : List String} (h : rest ≠ []) :
    (d.drop (segment :: rest)).1 = d.insert segment (.document ((d.subdocument segment).drop rest).1) := by
  cases rest with
  | nil => exact absurd rfl h
  | cons next more => rfl

theorem get?_drop_of_ne (d : Document) {segment other : String} (h : segment ≠ other) (rest : List String) :
    (d.drop (segment :: rest)).1.get? other = d.get? other := by
  cases rest with
  | nil => exact OrderedMap.get?_erase_of_ne d h
  | cons next more => exact OrderedMap.get?_insert_of_ne d _ h

-- On the way to what is removed there are documents.
theorem documentsTo_drop (d : Document) (way : List String) :
    (Value.document (d.drop way).1).DocumentsTo way := by
  induction way generalizing d with
  | nil => exact fun lead hlead hne => absurd (List.prefix_nil.mp hlead) hne
  | cons segment rest ih =>
      by_cases hrest : rest = []
      · subst hrest
        exact Value.documentsTo_singleton _ segment
      · rw [Value.documentsTo_cons_iff hrest, drop_cons d segment hrest]
        exact ⟨_, OrderedMap.get?_insert_self d segment _, ih (d.subdocument segment)⟩

-- Beside the way it makes no difference whether something is removed or written at its end.
theorem descend_drop_eq_put {p q : List String} (hpq : ¬ p <+: q) (hqp : ¬ q <+: p) (d : Document) (v : Value) :
    (Value.document (d.drop p).1).descend q = (Value.document (d.put p v).1).descend q := by
  induction p generalizing d q with
  | nil => exact absurd List.nil_prefix hpq
  | cons segment rest ih =>
      obtain _ | ⟨other, more⟩ := q
      · exact absurd List.nil_prefix hqp
      by_cases hsame : segment = other
      · subst hsame
        have hrest : ¬ rest <+: more := fun h => hpq (List.cons_prefix_cons.mpr ⟨rfl, h⟩)
        have hmore : ¬ more <+: rest := fun h => hqp (List.cons_prefix_cons.mpr ⟨rfl, h⟩)
        have hne : rest ≠ [] := by
          rintro rfl
          exact hrest List.nil_prefix
        rw [drop_cons d segment hne, put_cons d segment hne, Value.descend_document_cons,
          Value.descend_document_cons, OrderedMap.get?_insert_self, OrderedMap.get?_insert_self]
        exact ih hrest hmore (d.subdocument segment)
      · rw [Value.descend_document_cons, Value.descend_document_cons, get?_drop_of_ne d hsame,
          get?_put_of_ne d hsame]

theorem subdocument_wellFormed {d : Document} (h : (Value.document d).WellFormed) (key : String) :
    (Value.document (d.subdocument key)).WellFormed := by
  by_cases hinner : ∃ inner, d.get? key = some (.document inner)
  · obtain ⟨inner, hinner⟩ := hinner
    rw [subdocument_of_document hinner]
    exact Value.wellFormedFields_iff.mp h.2 _ (OrderedMap.mem_of_get? hinner)
  · rw [subdocument_eq_nil fun inner h => hinner ⟨inner, h⟩]
    exact ⟨OrderedMap.distinct_nil, trivial⟩

-- What has been removed is not read any more.
theorem descend_drop_self {d : Document} (hd : (Value.document d).WellFormed) {way : List String}
    (h : way ≠ []) : (Value.document (d.drop way).1).descend way = none := by
  induction way generalizing d with
  | nil => exact absurd rfl h
  | cons segment rest ih =>
      rw [Value.descend_document_cons]
      by_cases hrest : rest = []
      · subst hrest
        have hgone : (d.drop [segment]).1.get? segment = none := OrderedMap.get?_erase_self hd.1 segment
        rw [hgone]
        rfl
      · rw [drop_cons d segment hrest, OrderedMap.get?_insert_self]
        exact ih (subdocument_wellFormed hd segment) hrest

-- Nothing changes exactly if there is nothing to remove and documents lead to its place.
theorem drop_eq_self_iff (d : Document) {way : List String} (h : way ≠ []) :
    (d.drop way).1 = d ↔ (Value.document d).descend way = none ∧ (Value.document d).DocumentsTo way := by
  induction way generalizing d with
  | nil => exact absurd rfl h
  | cons segment rest ih =>
      by_cases hrest : rest = []
      · subst hrest
        have herase : (d.drop [segment]).1 = d.erase segment := rfl
        rw [herase, Value.descend_document_singleton, OrderedMap.erase_eq_self_iff,
          ← OrderedMap.get?_eq_none_iff]
        exact (and_iff_left (Value.documentsTo_singleton d segment)).symm
      · rw [drop_cons d segment hrest, OrderedMap.insert_eq_self_iff, Value.documentsTo_cons_iff hrest,
          Value.descend_document_cons]
        constructor
        · intro hget
          have hinner := subdocument_of_document hget
          obtain ⟨hnone, hdocuments⟩ := (ih (d.subdocument segment) hrest).mp hinner.symm
          rw [← hinner] at hget
          refine ⟨?_, _, hget, hdocuments⟩
          rw [hget]
          exact hnone
        · rintro ⟨hnone, inner, hinner, hdocuments⟩
          rw [hinner] at hnone
          have hsame := (ih inner hrest).mpr ⟨hnone, hdocuments⟩
          rw [subdocument_of_document hinner, hsame, hinner]

-- Whether a document has been changed at the end of a way and nowhere else, but for what had to give
-- way to documents.
structure EditedAt (way : List String) (d after : Document) : Prop where
  documents : (Value.document after).DocumentsTo way
  lost : ∀ other, ¬ way <+: other → ¬ other <+: way → (Value.document d).MeetInArray way other →
    (Value.document after).descend other = none
  kept : ∀ other, ¬ way <+: other → ¬ other <+: way → ¬ (Value.document d).MeetInArray way other →
    (Value.document after).descend other = (Value.document d).descend other

theorem editedAt_put (d : Document) (way : List String) (v : Value) : EditedAt way d (d.put way v).1 where
  documents _ hlead hne := descend_put_of_prefix hlead hne d v
  lost _ hlonger hshorter := (descend_put_of_apart hlonger hshorter d v).1
  kept _ hlonger hshorter := (descend_put_of_apart hlonger hshorter d v).2

theorem editedAt_drop (d : Document) (way : List String) : EditedAt way d (d.drop way).1 where
  documents := documentsTo_drop d way
  lost _ hlonger hshorter := by
    rw [descend_drop_eq_put hlonger hshorter d .null]
    exact (descend_put_of_apart hlonger hshorter d .null).1
  kept _ hlonger hshorter := by
    rw [descend_drop_eq_put hlonger hshorter d .null]
    exact (descend_put_of_apart hlonger hshorter d .null).2

-- A field of its own that is left alone.
theorem editedAt_refl (d : Document) (key : String) : EditedAt [key] d d where
  documents := Value.documentsTo_singleton d key
  lost other hlonger _ hmeet := by
    obtain ⟨lead, items, hlead, hother, harray⟩ := hmeet
    obtain _ | ⟨first, more⟩ := lead
    · cases harray
    · obtain ⟨rfl, hmore⟩ := List.cons_prefix_cons.mp hlead
      rw [List.prefix_nil.mp hmore] at hother
      exact absurd hother hlonger
  kept _ _ _ _ := rfl

-- Ways beside it that were not lost lead through the arrays that they led through before.
theorem EditedAt.meetInArray_iff {way other : List String} {d after : Document} (h : EditedAt way d after)
    (hlonger : ¬ way <+: other) (hmeet : ¬ (Value.document d).MeetInArray way other) (third : List String) :
    (Value.document after).MeetInArray third other ↔ (Value.document d).MeetInArray third other := by
  have hlead : ∀ lead items, lead <+: other → ((Value.document after).descend lead = some (.array items) ↔
      (Value.document d).descend lead = some (.array items)) := by
    intro lead items hlead
    by_cases hway : lead <+: way
    · have hne : lead ≠ way := by
        rintro rfl
        exact hlonger hlead
      obtain ⟨fields, hfields⟩ := h.documents lead hway hne
      have hbefore : (Value.document d).descend lead ≠ some (.array items) := fun harray =>
        hmeet ⟨lead, items, hway, hlead, harray⟩
      simp [hfields, hbefore]
    · have hbeyond : ¬ way <+: lead := fun hle => hlonger (hle.trans hlead)
      rw [h.kept lead hbeyond hway fun hle => hmeet (hle.mono hlead)]
  simp only [Value.MeetInArray]
  exact exists_congr fun lead => exists_congr fun items => and_congr_right fun _ =>
    and_congr_right fun hprefix => hlead lead items hprefix

-- What some changes, each at one of the paths, leave of what is read beside them all.
structure Spares (paths : List String) (d after : Document) : Prop where
  lost : ∀ q, (∀ p ∈ paths, Path.Apart p q) → (∃ p ∈ paths, d.MeetInArray p q) → after.getPath? q = none
  kept : ∀ q, (∀ p ∈ paths, Path.Apart p q) → (∀ p ∈ paths, ¬ d.MeetInArray p q) →
    after.getPath? q = d.getPath? q ∧ ∀ p, after.MeetInArray p q ↔ d.MeetInArray p q

theorem getPath?_eq_none_of_descend {d : Document} {q : String}
    (h : (Value.document d).descend (Path.segments q) = none) : d.getPath? q = none := by
  simp [getPath?, h]

theorem getPath?_congr {d after : Document} {q : String}
    (h : (Value.document after).descend (Path.segments q) = (Value.document d).descend (Path.segments q)) :
    after.getPath? q = d.getPath? q := by
  simp [getPath?, h]

theorem EditedAt.spares {p : String} {d after : Document} (h : EditedAt (Path.segments p) d after) :
    Spares [p] d after where
  lost q hapart hmeet := by
    have hp := hapart p List.mem_cons_self
    have hthis : d.MeetInArray p q := by simpa using hmeet
    exact getPath?_eq_none_of_descend (h.lost (Path.segments q) hp.1 hp.2 hthis)
  kept q hapart hmeet := by
    have hp := hapart p List.mem_cons_self
    have hthis := hmeet p List.mem_cons_self
    exact ⟨getPath?_congr (h.kept (Path.segments q) hp.1 hp.2 hthis),
      fun third => h.meetInArray_iff hp.1 hthis (Path.segments third)⟩

theorem Spares.refl (d : Document) : Spares [] d d where
  lost _ _ hmeet := by simp at hmeet
  kept _ _ _ := ⟨rfl, fun _ => Iff.rfl⟩

-- What is lost once stays lost, for nothing is written there.
theorem Spares.trans {first second : List String} {d middle after : Document} (hfirst : Spares first d middle)
    (hsecond : Spares second middle after) : Spares (first ++ second) d after where
  lost q hapart hmeet := by
    obtain ⟨hbefore, hthen⟩ := List.forall_mem_append.mp hapart
    have hrest : middle.getPath? q = none → after.getPath? q = none := by
      intro hnone
      by_cases hlater : ∃ p ∈ second, middle.MeetInArray p q
      · exact hsecond.lost q hthen hlater
      · rw [(hsecond.kept q hthen fun p hp hmeet => hlater ⟨p, hp, hmeet⟩).1, hnone]
    by_cases hnow : ∃ p ∈ first, d.MeetInArray p q
    · exact hrest (hfirst.lost q hbefore hnow)
    · have hkept := hfirst.kept q hbefore fun p hp hmeet => hnow ⟨p, hp, hmeet⟩
      obtain ⟨p, hp, hmeet⟩ := hmeet
      have hp : p ∈ second := (List.mem_append.mp hp).resolve_left fun hp => hnow ⟨p, hp, hmeet⟩
      exact hsecond.lost q hthen ⟨p, hp, (hkept.2 p).mpr hmeet⟩
  kept q hapart hmeet := by
    obtain ⟨hbefore, hthen⟩ := List.forall_mem_append.mp hapart
    obtain ⟨hnow, hlater⟩ := List.forall_mem_append.mp hmeet
    obtain ⟨hread, harrays⟩ := hfirst.kept q hbefore hnow
    obtain ⟨hread', harrays'⟩ := hsecond.kept q hthen fun p hp => (harrays p).not.mpr (hlater p hp)
    exact ⟨hread'.trans hread, fun p => (harrays' p).trans (harrays p)⟩

-- What is read beside all the paths stays as it was exactly if it was nothing or shares no array
-- with any of them.
theorem Spares.getPath?_iff {paths : List String} {d after : Document} (h : Spares paths d after) {q : String}
    (hapart : ∀ p ∈ paths, Path.Apart p q) :
    after.getPath? q = d.getPath? q ↔ d.getPath? q = none ∨ ∀ p ∈ paths, ¬ d.MeetInArray p q := by
  by_cases hmeet : ∃ p ∈ paths, d.MeetInArray p q
  · have hsome : ¬ ∀ p ∈ paths, ¬ d.MeetInArray p q := by
      intro hnone
      obtain ⟨p, hp, hmeet⟩ := hmeet
      exact hnone p hp hmeet
    rw [h.lost q hapart hmeet]
    simp only [hsome, or_false]
    exact eq_comm
  · have hnone : ∀ p ∈ paths, ¬ d.MeetInArray p q := fun p hp hmeet' => hmeet ⟨p, hp, hmeet'⟩
    simp only [(h.kept q hapart hnone).1, true_iff]
    exact .inr hnone

section Update

variable {op path : String} {v : Value} {d fields update : Document} {result : Document × Bool} {changed : Bool}

-- Every operator changes the document at its path.
theorem applyOperator_editedAt (h : applyOperator op path v d = .ok result) :
    EditedAt (Path.segments path) d result.1 := by
  rcases applyOperator_cases h with ⟨rfl, rfl⟩ | ⟨w, _, rfl⟩ | ⟨_, rfl⟩
  · rw [Path.segments_id]
    exact editedAt_refl d "_id"
  · exact editedAt_put d _ w
  · exact editedAt_drop d _

theorem applyFields_spares (h : (applyFields op fields d).outcome = .ok changed) :
    Spares fields.keys d (applyFields op fields d).document := by
  induction fields generalizing d changed with
  | nil => exact Spares.refl d
  | cons field rest ih =>
      obtain ⟨path, v⟩ := field
      unfold applyFields at h ⊢
      split at h
      · cases h
      · next next own hstep =>
          obtain ⟨others, hothers, _⟩ := Except.map_eq_ok_iff.mp h
          have hfirst : Spares [path] d next := (applyOperator_editedAt hstep).spares
          exact hfirst.trans (ih hothers)

-- The paths at which an update changes a document.
def paths (update : Document) : List String :=
  update.flatMap fun entry => OrderedMap.keys (entry.2.document?.getD [])

theorem applyUpdate_spares (h : (update.applyUpdate d).outcome = .ok changed) :
    Spares update.paths d (update.applyUpdate d).document := by
  induction update generalizing d changed with
  | nil => exact Spares.refl d
  | cons entry rest ih =>
      obtain ⟨op, arg⟩ := entry
      cases arg with
      | document fields =>
          unfold applyUpdate at h ⊢
          dsimp only at h ⊢
          split at h
          · cases h
          · next own hfirst =>
              obtain ⟨others, hothers, _⟩ := Except.map_eq_ok_iff.mp h
              have hrest := (applyFields_spares hfirst).trans (ih hothers)
              simpa [paths, Value.document?] using hrest
      | _ => cases h

end Update

end Document

end DocStore
