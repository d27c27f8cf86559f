import DocStore.Proofs.Collection.Selection
import DocStore.Proofs.Collection.Update
import DocStore.Proofs.Selector.Lookup
import DocStore.Proofs.Value.NaN

namespace DocStore

namespace Selector

variable {selector : Document} {docs : List Document} {d : Document}

theorem rejected_of_select_nil (h : select selector docs = .ok []) (hd : d ∈ docs) :
    holds d selector = .ok false := by
  induction docs with
  | nil => cases hd
  | cons first rest ih =>
      unfold select at h
      split at h
      · obtain ⟨found, _, hcons⟩ := Except.map_eq_ok_iff.mp h
        cases hcons
      · next hfirst =>
          rcases List.mem_cons.mp hd with rfl | hrest
          · exact hfirst
          · exact ih h hrest
      · cases h

theorem not_exists_selected_of_select_nil (h : select selector docs = .ok []) :
    ¬ ∃ d ∈ docs, holds d selector = .ok true := by
  rintro ⟨d, hd, hselected⟩
  cases (rejected_of_select_nil h hd).symm.trans hselected

end Selector

namespace Collection

-- Whether all documents without the identifier are as they were, one document has
-- it, and none had it before if this one is new.
structure TouchesOne (id : Value) (before after : List Document) (isNew : Bool) : Prop where
  others : ∀ (i : Nat) (e : Document), before[i]? = some e → holdsId id e = false → after[i]? = some e
  one : after.countP (holdsId id) = 1
  unused : isNew = true → ∀ e ∈ before, holdsId id e = false

section

variable {id : Value} {docs docs' : List Document} {d e : Document}

theorem holdsId_iff_same (hid : id.WellFormed) (he : e.Identified) :
    holdsId id e = true ↔ ∃ own, e.id? = some own ∧ id.same own = true := by
  obtain ⟨own, hown, hwf⟩ := he
  simp only [holdsId, hown, Option.some.injEq, exists_eq_left']
  exact ⟨Value.same_symm hwf hid, Value.same_symm hid hwf⟩

-- Of documents with identifiers of their own at most one has this one.
theorem countP_holdsId_le_one (hid : id.WellFormed) (hdocs : Identified docs) (hu : UniqueIds docs) :
    docs.countP (holdsId id) ≤ 1 := by
  induction docs with
  | nil => simp
  | cons d rest ih =>
      obtain ⟨hd, hrest⟩ := List.forall_mem_cons.mp hdocs
      obtain ⟨hhead, htail⟩ := List.pairwise_cons.mp hu
      rw [List.countP_cons]
      by_cases hholds : holdsId id d = true
      · have hnone : rest.countP (holdsId id) = 0 := by
          rw [List.countP_eq_zero]
          intro e he hother
          obtain ⟨own, hown, hsame⟩ := (holdsId_iff_same hid (hrest e he)).mp hother
          obtain ⟨first, hfirst, _⟩ := hd
          have hfirstid : first.same id = true := by simpa [holdsId, hfirst] using hholds
          have hshares : d.sharesId e = true := by
            simpa [Document.sharesId, hfirst, hown] using Value.same_trans hfirstid hsame
          rw [(hhead e he).1] at hshares
          cases hshares
        simp [hnone, hholds]
      · simpa [hholds] using ih hrest htail

-- Documents without the identifier that are left as they are do not come to have it.
theorem countP_holdsId_le (h : List.Forall₂ (fun e e' => holdsId id e = false → e' = e) docs docs') :
    docs'.countP (holdsId id) ≤ docs.countP (holdsId id) := by
  induction h with
  | nil => exact Nat.le_refl _
  | @cons e e' rest rest' hpair _ ih =>
      rw [List.countP_cons, List.countP_cons]
      by_cases hholds : holdsId id e = true
      · rw [if_pos hholds]
        split <;> omega
      · have hsame : e' = e := hpair (by simpa using hholds)
        rw [hsame]
        omega

-- Where every document stays in its place, only the one with the identifier may
-- change, and it has to keep it.
theorem touchesOne_in_place_iff (hid : id.WellFormed) (hdocs : Identified docs) (hu : UniqueIds docs)
    (hlength : docs.length = docs'.length) :
    TouchesOne id docs docs' false ↔
      List.Forall₂ (fun e e' => holdsId id e = false → e' = e) docs docs' ∧
        ∃ e' ∈ docs', holdsId id e' = true := by
  have hothers : (∀ (i : Nat) (e : Document), docs[i]? = some e → holdsId id e = false → docs'[i]? = some e) ↔
      List.Forall₂ (fun e e' => holdsId id e = false → e' = e) docs docs' := by
    rw [List.forall₂_iff_get]
    constructor
    · refine fun h => ⟨hlength, fun i hi hi' hholds => ?_⟩
      have hkept := h i docs[i] (List.getElem?_eq_getElem hi) hholds
      exact (List.getElem?_eq_some_iff.mp hkept).2
    · rintro ⟨_, h⟩ i e he hholds
      obtain ⟨hi, rfl⟩ := List.getElem?_eq_some_iff.mp he
      have hi' : i < docs'.length := hlength ▸ hi
      exact List.getElem?_eq_some_iff.mpr ⟨hi', h i hi hi' hholds⟩
  constructor
  · intro h
    refine ⟨hothers.mp h.others, List.countP_pos_iff.mp ?_⟩
    have hone := h.one
    omega
  · rintro ⟨hkept, hholder⟩
    have hpos : 0 < docs'.countP (holdsId id) := List.countP_pos_iff.mpr hholder
    have hle := countP_holdsId_le hkept
    have hatmost := countP_holdsId_le_one hid hdocs hu
    exact ⟨hothers.mpr hkept, by omega, fun h => by cases h⟩

-- A new document is added alone if the identifier is not in use and finds it.
theorem touchesOne_added_iff (created : Document) :
    TouchesOne id docs (docs ++ [created]) true ↔
      (∀ e ∈ docs, holdsId id e = false) ∧ holdsId id created = true := by
  constructor
  · intro h
    have hnone : docs.countP (holdsId id) = 0 :=
      List.countP_eq_zero.mpr fun e he => by simp [h.unused rfl e he]
    have hone := h.one
    rw [List.countP_append, hnone, List.countP_singleton] at hone
    refine ⟨h.unused rfl, ?_⟩
    by_contra hnot
    simp [hnot] at hone
  · rintro ⟨hunused, hcreated⟩
    have hnone : docs.countP (holdsId id) = 0 :=
      List.countP_eq_zero.mpr fun e he => by simp [hunused e he]
    refine ⟨fun i e he _ => ?_, ?_, fun _ => hunused⟩
    · have hlt : i < docs.length := (List.getElem?_eq_some_iff.mp he).1
      rw [List.getElem?_append_left hlt, he]
    · simp [List.countP_append, hnone, hcreated]

end

section

variable {name : String} {selector update replacement : Document} {fresh : ObjectId} {docs : List Document}
  {report : UpdateReport}

theorem replaceFirst_of_ok (h : (replaceFirst name selector replacement fresh docs).outcome = .ok report)
    (hmatched : report.matched ≠ 0) :
    report.upserted = false ∧ (∃ e ∈ docs, Selector.holds e selector = .ok true) ∧
      List.Forall₂ (fun e e' => e' = e ∨ changesId replacement e = false ∧ e' = replacement.withId e.id? fresh)
        docs (replaceFirst name selector replacement fresh docs).documents ∧
      ∃ e ∈ docs, changesId replacement e = false ∧
        replacement.withId e.id? fresh ∈ (replaceFirst name selector replacement fresh docs).documents := by
  induction docs with
  | nil =>
      cases h
      exact absurd rfl hmatched
  | cons d rest ih =>
      unfold replaceFirst at h ⊢
      cases hselected : Selector.holds d selector with
      | error err => simp [hselected] at h
      | ok hit =>
          cases hit with
          | false =>
              simp only [hselected, keep] at h ⊢
              obtain ⟨hnew, ⟨e, he, hfound⟩, hpairs, own, hown, hsame, hmem⟩ := ih h
              exact ⟨hnew, ⟨e, List.mem_cons_of_mem d he, hfound⟩, .cons (Or.inl rfl) hpairs, own,
                List.mem_cons_of_mem d hown, hsame, List.mem_cons_of_mem d hmem⟩
          | true =>
              simp only [hselected] at h ⊢
              split at h
              · cases h
              · next hsame =>
                  replace hsame : changesId replacement d = false := by simpa using hsame
                  cases h
                  rw [if_neg (by simp [hsame])]
                  have hrest : List.Forall₂ (fun e e' => e' = e ∨ changesId replacement e = false ∧
                      e' = replacement.withId e.id? fresh) rest rest :=
                    List.forall₂_same.mpr fun e _ => Or.inl rfl
                  exact ⟨rfl, ⟨d, List.mem_cons_self, hselected⟩, .cons (Or.inr ⟨hsame, rfl⟩) hrest, d,
                    List.mem_cons_self, hsame, List.mem_cons_self⟩

-- A replacement that succeeds puts a document in its place or adds one.
theorem replaceOne_of_ok (h : (replaceOne name selector replacement true fresh docs).outcome = .ok report) :
    (Selector.select selector docs = .ok [] ∧ report.upserted = true ∧
        (replaceOne name selector replacement true fresh docs).documents =
          docs ++ [replaceCreates selector replacement fresh]) ∨
      (replaceOne name selector replacement true fresh docs).documents =
          (replaceFirst name selector replacement fresh docs).documents ∧
        (replaceFirst name selector replacement fresh docs).outcome = .ok report ∧ report.matched ≠ 0 := by
  unfold replaceOne at h ⊢
  dsimp only at h ⊢
  cases hfirst : (replaceFirst name selector replacement fresh docs).outcome with
  | error e =>
      rw [hfirst] at h
      cases hfirst.symm.trans h
  | ok own =>
      rw [hfirst] at h
      dsimp only at h ⊢
      by_cases hnone : own.matched = 0
      · simp only [hnone, and_self, if_true] at h ⊢
        cases h
        exact Or.inl ⟨unselected_of_replaceFirst hfirst hnone, rfl, rfl⟩
      · rw [if_neg fun hboth => hnone hboth.1] at h ⊢
        cases Except.ok.inj (hfirst.symm.trans h)
        exact Or.inr ⟨rfl, rfl, hnone⟩

theorem updateEach_upserted {onlyFirst : Bool}
    (h : (updateEach name selector update onlyFirst docs).outcome = .ok report) : report.upserted = false := by
  induction docs generalizing report with
  | nil =>
      cases h
      rfl
  | cons d rest ih =>
      unfold updateEach at h
      split at h
      · cases h
      · exact ih h
      · dsimp only at h
        split at h
        · cases h
        · obtain ⟨inner, hinner, rfl⟩ := Except.map_eq_ok_iff.mp h
          cases onlyFirst with
          | true =>
              cases hinner
              rfl
          | false => exact @ih inner hinner

theorem exists_selected_of_updateEach
    (h : (updateEach name selector update false docs).outcome = .ok report) (hmatched : report.matched ≠ 0) :
    ∃ e ∈ docs, Selector.holds e selector = .ok true := by
  obtain ⟨found, hfound, hlength⟩ := Except.map_eq_ok_iff.mp (updateEach_matched h)
  by_contra hnone
  have hrejected : ∀ e ∈ docs, Selector.holds e selector = .ok false := by
    intro e he
    obtain ⟨b, hb⟩ := Selector.decided_of_select hfound e he
    cases b with
    | false => exact hb
    | true => exact absurd ⟨e, he, hb⟩ hnone
  have hempty := Selector.select_eq_filter hrejected
  rw [hfound] at hempty
  have hnil : found = [] := (Except.ok.inj hempty).trans (by simp)
  rw [hnil] at hlength
  exact hmatched hlength.symm

-- An upserting update that succeeds makes something of every document or adds one.
theorem update_of_ok (h : (Collection.update name selector update true false fresh docs).outcome = .ok report) :
    (Selector.select selector docs = .ok [] ∧ report.upserted = true ∧
        ∃ created, updateCreates selector update fresh = some created ∧
          (Collection.update name selector update true false fresh docs).documents = docs ++ [created]) ∨
      (Collection.update name selector update true false fresh docs).documents =
          (updateEach name selector update false docs).documents ∧
        (updateEach name selector update false docs).outcome = .ok report ∧ report.matched ≠ 0 := by
  unfold Collection.update at h ⊢
  dsimp only at h ⊢
  cases hwritten : (updateEach name selector update false docs).outcome with
  | error e =>
      rw [hwritten] at h
      cases hwritten.symm.trans h
  | ok own =>
      rw [hwritten] at h
      dsimp only at h ⊢
      by_cases hnone : own.matched = 0
      · have hselect := unselected_of_updateEach hwritten hnone
        simp only [hnone, and_self, if_true] at h ⊢
        cases hseeded : (update.applyUpdate selector.upsertSeed).outcome with
        | error e =>
            rw [hseeded] at h
            cases h
        | ok changed =>
            rw [hseeded] at h
            cases h
            refine Or.inl ⟨hselect, rfl, (update.applyUpdate selector.upsertSeed).document.withId none fresh, ?_, ?_⟩
            · simp [updateCreates, hseeded]
            · rw [updateEach_of_unselected hselect]
      · rw [if_neg fun hboth => hnone hboth.1] at h ⊢
        cases Except.ok.inj (hwritten.symm.trans h)
        exact Or.inr ⟨rfl, rfl, hnone⟩

end

-- Whether a replacement under the identifier finds a document, or else the identifier
-- is one that is not in use and is the same as itself.
def ReplacesOne (id : Value) (docs : List Document) : Prop :=
  (∃ e ∈ docs, Selector.holds e [("_id", id)] = .ok true) ∨
    (∀ e ∈ docs, holdsId id e = false) ∧ id.hasNaN = false

-- Whether an update that finds documents changes none without the identifier and
-- leaves one with it, and one that finds none makes a document that is alone in having it.
def UpdatesOne (id : Value) (selector update : Document) (fresh : ObjectId) (docs : List Document) : Prop :=
  ((∃ e ∈ docs, Selector.holds e selector = .ok true) ∧
      (∀ e ∈ docs, holdsId id e = false → updated selector update e = .ok e) ∧
      ∃ e ∈ docs, ∃ e', updated selector update e = .ok e' ∧ holdsId id e' = true) ∨
    (∀ e ∈ docs, Selector.holds e selector = .ok false) ∧ (∀ e ∈ docs, holdsId id e = false) ∧
      ∃ created, updateCreates selector update fresh = some created ∧ holdsId id created = true

section

variable {name : String} {id : Value} {selector update replacement : Document} {fresh : ObjectId}
  {docs : List Document} {d e : Document} {report : UpdateReport}

-- What a replacement does not fail on has its identifier already.
theorem holdsId_of_not_changesId (hid : id.WellFormed) (hown : replacement.id? = some id) (he : e.Identified)
    (h : changesId replacement e = false) : holdsId id e = true := by
  rw [holdsId_iff_same hid he]
  obtain ⟨own, heid, _⟩ := he
  exact ⟨own, heid, by simpa [changesId, hown, heid] using h⟩

theorem holdsId_withId (d e : Document) (he : e.Identified) :
    holdsId id (d.withId e.id? fresh) = holdsId id e := by
  obtain ⟨own, heid, _⟩ := he
  simp [holdsId, heid]

theorem replaceOne_touchesOne_iff (hid : id.WellFormed) (hown : replacement.id? = some id)
    (hdocs : Identified docs) (hu : UniqueIds docs)
    (h : (replaceOne name [("_id", id)] replacement true fresh docs).outcome = .ok report) :
    TouchesOne id docs (replaceOne name [("_id", id)] replacement true fresh docs).documents report.upserted ↔
      ReplacesOne id docs := by
  rcases replaceOne_of_ok h with ⟨hnone, hnew, hdocuments⟩ | ⟨hdocuments, hfirst, hmatched⟩
  · have hcreated : holdsId id (replaceCreates [("_id", id)] replacement fresh) = true ↔ id.hasNaN = false := by
      rw [← Value.same_self_iff hid]
      simp [holdsId, replaceCreates, hown]
    have hunfound : ¬ ∃ e ∈ docs, Selector.holds e [("_id", id)] = .ok true := by
      rintro ⟨e, he, hfound⟩
      cases (Selector.rejected_of_select_nil hnone he).symm.trans hfound
    rw [hdocuments, hnew, touchesOne_added_iff, hcreated, ReplacesOne]
    simp [hunfound]
  · obtain ⟨hold, hfound, hpairs, e, he, hsame, hmem⟩ := replaceFirst_of_ok hfirst hmatched
    rw [hdocuments, hold]
    refine iff_of_true ((touchesOne_in_place_iff hid hdocs hu hpairs.length_eq).mpr ⟨?_, ?_⟩) (Or.inl hfound)
    · refine ((List.forall₂_and_left _ _).mpr ⟨hdocs, hpairs⟩).imp fun e e' hpair hother => ?_
      refine hpair.2.resolve_right fun hreplaced => ?_
      rw [holdsId_of_not_changesId hid hown hpair.1 hreplaced.1] at hother
      cases hother
    · refine ⟨_, hmem, ?_⟩
      rw [holdsId_withId _ _ (hdocs e he)]
      exact holdsId_of_not_changesId hid hown (hdocs e he) hsame

section

variable {after : List Document} (h : List.Forall₂ (fun e e' => updated selector update e = .ok e') docs after)

include h

theorem kept_iff_of_updated : List.Forall₂ (fun e e' => holdsId id e = false → e' = e) docs after ↔
    ∀ e ∈ docs, holdsId id e = false → updated selector update e = .ok e := by
  induction h with
  | nil => simp
  | @cons e e' rest others hpair _ ih => simp [ih, hpair]

theorem exists_holder_iff_of_updated : (∃ e' ∈ after, holdsId id e' = true) ↔
    ∃ e ∈ docs, ∃ e', updated selector update e = .ok e' ∧ holdsId id e' = true := by
  induction h with
  | nil => simp
  | @cons e e' rest others hpair _ ih => simp [ih, hpair]

end

theorem update_touchesOne_iff (hid : id.WellFormed) (hdocs : Identified docs) (hu : UniqueIds docs)
    (h : (Collection.update name selector update true false fresh docs).outcome = .ok report) :
    TouchesOne id docs (Collection.update name selector update true false fresh docs).documents report.upserted ↔
      UpdatesOne id selector update fresh docs := by
  rcases update_of_ok h with ⟨hnone, hnew, created, hcreated, hdocuments⟩ | ⟨hdocuments, heach, hmatched⟩
  · have hunfound : ∀ e ∈ docs, Selector.holds e selector = .ok false :=
      fun e he => Selector.rejected_of_select_nil hnone he
    have hnotfound : ¬ ∃ e ∈ docs, Selector.holds e selector = .ok true := by
      rintro ⟨e, he, hfound⟩
      cases (hunfound e he).symm.trans hfound
    rw [hdocuments, hnew, touchesOne_added_iff, UpdatesOne]
    simp only [hnotfound, false_and, false_or, hcreated, Option.some.injEq, exists_eq_left']
    exact ⟨fun hadded => ⟨hunfound, hadded⟩, And.right⟩
  · have hfound := exists_selected_of_updateEach heach hmatched
    have hunfound : ¬ ∀ e ∈ docs, Selector.holds e selector = .ok false := by
      obtain ⟨e, he, hselected⟩ := hfound
      intro hnone
      cases (hnone e he).symm.trans hselected
    have hpairs := updateEach_documents_of_ok heach
    rw [hdocuments, updateEach_upserted heach, touchesOne_in_place_iff hid hdocs hu hpairs.length_eq,
      kept_iff_of_updated hpairs, exists_holder_iff_of_updated hpairs, UpdatesOne]
    simp only [hfound, hunfound, true_and, false_and, or_false]

theorem holdsId_of_keepsId {e' : Document} (he : e.Identified) (hkeep : e.KeepsId e')
    (h : holdsId id e = true) : holdsId id e' = true := by
  obtain ⟨own, hown, hwf⟩ := he
  have hsame : own.same id = true := by simpa [holdsId, hown] using h
  rcases hkeep with hleft | ⟨v, hv, hev, hput⟩
  · simpa [holdsId, hleft] using h
  · simpa [holdsId, hev] using Value.same_trans (Value.same_symm hwf hv (hput own hown)) hsame

theorem upsertSeed_id (hdata : id.isData = true) : Document.upsertSeed [("_id", id)] = [("_id", id)] := by
  have htop : Document.isTopField "_id" = true := rfl
  cases id with
  | document fields =>
      have hplain : Document.isOperator fields = false := by simpa [Value.isData] using hdata
      simp [Document.upsertSeed, htop, hplain, OrderedMap.insert]
  | _ => rfl

theorem holdsId_of_updateCreates (hid : id.WellFormed) (hdata : id.isData = true) (hnan : id.hasNaN = false)
    (hspare : update.sparesId = true) (hwf : (Value.document update).WellFormed)
    (h : updateCreates [("_id", id)] update fresh = some d) : holdsId id d = true := by
  let seed : Document := [("_id", id)]
  have hseed : holdsId id seed = true := (Value.same_self_iff hid).mpr hnan
  have hupdated := holdsId_of_keepsId ⟨id, rfl, hid⟩ (@Document.applyUpdate_keepsId _ seed hspare hwf) hseed
  unfold updateCreates at h
  rw [upsertSeed_id hdata] at h
  dsimp only at h
  split at h
  · cases h
    cases hown : (update.applyUpdate seed).document.id? with
    | none => simp [holdsId, hown] at hupdated
    | some own => simpa [holdsId, hown, seed] using hupdated
  · cases h

-- It is enough that the identifier stands for itself, is found where it is and
-- nowhere else, and is not written to.
theorem updatesOne_of_finds (hid : id.WellFormed) (hdocs : Identified docs) (hdata : id.isData = true)
    (hnan : id.hasNaN = false) (hspare : update.sparesId = true) (hwf : (Value.document update).WellFormed)
    (hfinds : ∀ e ∈ docs, Selector.equals e.id? id = holdsId id e)
    (h : (Collection.update name [("_id", id)] update true false fresh docs).outcome = .ok report) :
    UpdatesOne id [("_id", id)] update fresh docs := by
  have hselects : ∀ e ∈ docs, Selector.holds e [("_id", id)] = .ok (holdsId id e) := fun e he => by
    rw [Selector.holds_id_of_isData e hdata, ← hfinds e he, Document.id?]
  rcases update_of_ok h with ⟨hnone, _, created, hcreated, _⟩ | ⟨_, heach, hmatched⟩
  · have hunfound : ∀ e ∈ docs, Selector.holds e [("_id", id)] = .ok false :=
      fun e he => Selector.rejected_of_select_nil hnone he
    have hunused : ∀ e ∈ docs, holdsId id e = false :=
      fun e he => Except.ok.inj ((hselects e he).symm.trans (hunfound e he))
    exact Or.inr ⟨hunfound, hunused, created, hcreated,
      holdsId_of_updateCreates hid hdata hnan hspare hwf hcreated⟩
  · obtain ⟨e, he, hfound⟩ := exists_selected_of_updateEach heach hmatched
    have hholds : holdsId id e = true := Except.ok.inj ((hselects e he).symm.trans hfound)
    obtain ⟨e', _, hupdated⟩ := exists_of_mem_after (updateEach_documents_of_ok heach).flip he
    have hkeep := (updated_keptUnder (hdocs e he) hwf (Or.inr hupdated)).spared hspare
    refine Or.inl ⟨⟨e, he, hfound⟩, fun other hother hnot => ?_, e, he, e', hupdated, ?_⟩
    · exact updated_of_unselected (hnot ▸ hselects other hother)
    · exact holdsId_of_keepsId (hdocs e he) hkeep hholds

theorem replacesOne_of_finds (hdata : id.isData = true) (hnan : id.hasNaN = false)
    (hfinds : ∀ e ∈ docs, Selector.equals e.id? id = holdsId id e) : ReplacesOne id docs := by
  by_cases hused : ∃ e ∈ docs, holdsId id e = true
  · obtain ⟨e, he, hholds⟩ := hused
    refine Or.inl ⟨e, he, ?_⟩
    rw [Selector.holds_id_of_isData e hdata, ← hholds, ← hfinds e he, Document.id?]
  · refine Or.inr ⟨fun e he => ?_, hnan⟩
    simpa using fun hholds => hused ⟨e, he, hholds⟩

end

end Collection

end DocStore
