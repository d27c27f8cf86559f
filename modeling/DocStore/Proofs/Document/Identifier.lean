import DocStore.Document.Update
import DocStore.Proofs.Value.Equality
import DocStore.Proofs.Value.Path
import DocStore.Store.Collection

namespace DocStore

namespace Text

-- A text that is not split is its own only piece.
theorem eq_of_splitAt_eq_singleton {separator : Char → Bool} {cs piece : List Char}
    (h : splitAt separator cs = [piece]) : cs = piece := by
  induction cs generalizing piece with
  | nil => simpa [splitAt] using h
  | cons c rest ih =>
      unfold splitAt at h
      split at h
      · exact absurd (List.cons.inj h).2 (splitAt_ne_nil separator rest)
      · split at h
        · next hnil => exact absurd hnil (splitAt_ne_nil separator rest)
        · next first others hrest =>
            obtain ⟨hpiece, hothers⟩ := List.cons.inj h
            rw [← hpiece, ih (by rw [hrest, hothers])]

end Text

namespace Path

-- Whether a path leads into the identifier of a document.
def isBelowId (path : String) : Bool :=
  match segments path with
  | "_id" :: _ :: _ => true
  | _ => false

theorem eq_of_segments_eq_singleton {path key : String} (h : segments path = [key]) : path = key := by
  obtain ⟨piece, hpiece, htext⟩ := List.map_eq_singleton_iff.mp h
  rw [← htext, ← Text.eq_of_splitAt_eq_singleton hpiece, String.ofList_toList]

theorem segments_ne_of_not_below {path : String} (hbelow : isBelowId path = false) (hid : path ≠ "_id")
    (rest : List String) : segments path ≠ "_id" :: rest := by
  intro hsegments
  cases rest with
  | nil => exact hid (eq_of_segments_eq_singleton hsegments)
  | cons next more => simp [isBelowId, hsegments] at hbelow

end Path

-- A sum is a number whatever has been added.
theorem Value.isLeaf_addNumber (current step : Value) (amount : Double) :
    (current.addNumber step amount).isLeaf = true := by
  unfold addNumber
  split
  · unfold ofInt
    split <;> rfl
  all_goals rfl

namespace Document

-- Whether the first document's identifier is the same as the second's.
def sharesId (d e : Document) : Bool :=
  match d.id?, e.id? with
  | some v, some w => v.same w
  | _, _ => false

-- Whether a document has an identifier, one in which no document has a key twice.
def Identified (d : Document) : Prop := ∃ id, d.id? = some id ∧ id.WellFormed

-- Whether the identifier is left as it is, or the same one takes its place.
def KeepsId (d e : Document) : Prop :=
  e.id? = d.id? ∨ ∃ v, v.WellFormed ∧ e.id? = some v ∧ ∀ id, d.id? = some id → id.same v = true

-- Whether no path of an update leads into the identifier.
def sparesId (update : Document) : Bool :=
  update.all fun entry =>
    match entry.2 with
    | .document fields => fields.all fun field => !Path.isBelowId field.1
    | _ => true

theorem sharesId_comm {d e : Document} (hd : d.Identified) (he : e.Identified) :
    d.sharesId e = e.sharesId d := by
  obtain ⟨v, hv, hvw⟩ := hd
  obtain ⟨w, hw, hww⟩ := he
  simp only [sharesId, hv, hw]
  exact Bool.eq_iff_iff.mpr ⟨Value.same_symm hvw hww, Value.same_symm hww hvw⟩

section

variable {d e f : Document}

theorem KeepsId.refl (d : Document) : d.KeepsId d := Or.inl rfl

theorem KeepsId.trans (hde : d.KeepsId e) (hef : e.KeepsId f) : d.KeepsId f := by
  rcases hef with hf | ⟨w, hw, hfw, hsame⟩
  · rcases hde with he | ⟨v, hv, hev, hsame⟩
    · exact Or.inl (hf.trans he)
    · exact Or.inr ⟨v, hv, hf.trans hev, hsame⟩
  · refine Or.inr ⟨w, hw, hfw, fun id hid => ?_⟩
    rcases hde with he | ⟨v, hv, hev, hsame'⟩
    · exact hsame id (he.trans hid)
    · exact Value.same_trans (hsame' id hid) (hsame v hev)

theorem KeepsId.identified (h : d.KeepsId e) (hd : d.Identified) : e.Identified := by
  rcases h with he | ⟨v, hv, hev, _⟩
  · obtain ⟨id, hid, hwf⟩ := hd
    exact ⟨id, he.trans hid, hwf⟩
  · exact ⟨v, hev, hv⟩

-- Two documents that share an identifier did so before.
theorem KeepsId.sharesId {d' e' : Document} (hd : d.KeepsId d') (he : e.KeepsId e')
    (hdi : d.Identified) (hei : e.Identified) (h : d'.sharesId e' = true) : d.sharesId e = true := by
  obtain ⟨v, hv, hvw⟩ := hdi
  obtain ⟨w, hw, hww⟩ := hei
  have hleft : ∃ v', d'.id? = some v' ∧ (v = v' ∨ v.same v' = true) := by
    rcases hd with h' | ⟨v', _, h', hsame⟩
    · exact ⟨v, h'.trans hv, Or.inl rfl⟩
    · exact ⟨v', h', Or.inr (hsame v hv)⟩
  have hright : ∃ w', e'.id? = some w' ∧ (w' = w ∨ w'.same w = true) := by
    rcases he with h' | ⟨w', hwf, h', hsame⟩
    · exact ⟨w, h'.trans hw, Or.inl rfl⟩
    · exact ⟨w', h', Or.inr (Value.same_symm hww hwf (hsame w hw))⟩
  obtain ⟨v', hv', hvv'⟩ := hleft
  obtain ⟨w', hw', hww'⟩ := hright
  simp only [Document.sharesId, hv', hw', hv, hw] at h ⊢
  have hvw' : v.same w' = true := by
    rcases hvv' with rfl | hsame
    · exact h
    · exact Value.same_trans hsame h
  rcases hww' with rfl | hsame
  · exact hvw'
  · exact Value.same_trans hvw' hsame

end

section

variable {path key : String} (hpath : ∀ rest, Path.segments path ≠ key :: rest)

include hpath

theorem get?_setPath (d : Document) (v : Value) : (d.setPath path v).1.get? key = d.get? key := by
  unfold setPath
  cases hs : Path.segments path with
  | nil => rfl
  | cons segment rest =>
      have hne : segment ≠ key := fun h => hpath rest (h ▸ hs)
      cases rest with
      | nil => exact OrderedMap.get?_insert_of_ne d v hne
      | cons next more => exact OrderedMap.get?_insert_of_ne d _ hne

theorem get?_unsetPath (d : Document) : (d.unsetPath path).1.get? key = d.get? key := by
  unfold unsetPath
  cases hs : Path.segments path with
  | nil => rfl
  | cons segment rest =>
      have hne : segment ≠ key := fun h => hpath rest (h ▸ hs)
      cases rest with
      | nil => exact OrderedMap.get?_erase_of_ne d hne
      | cons next more => exact OrderedMap.get?_insert_of_ne d _ hne

end

-- What an operator can do to a document, if it can be carried out at all: it sets its own value or a
-- number that it has come to.
theorem applyOperator_cases {op path : String} {v : Value} {d : Document} {result : Document × Bool}
    (h : applyOperator op path v d = .ok result) :
    (path = "_id" ∧ result = (d, false)) ∨
      (∃ w, (w = v ∨ w.isLeaf = true) ∧ result = d.setPath path w) ∨
      path ≠ "_id" ∧ result = d.unsetPath path := by
  unfold applyOperator at h
  split at h
  · next hid => exact Or.inl ⟨hid.1, (Except.ok.inj h).symm⟩
  · next hid =>
      split at h
      · split at h
        · split at h
          · cases h
          · exact Or.inr (Or.inl ⟨v, Or.inl rfl, (Except.ok.inj h).symm⟩)
        · exact Or.inr (Or.inl ⟨v, Or.inl rfl, (Except.ok.inj h).symm⟩)
      · next hset =>
          split at h
          · exact Or.inr (Or.inr ⟨fun hown => hid ⟨hown, hset⟩, (Except.ok.inj h).symm⟩)
          · split at h
            · split at h
              · cases h
              · exact Or.inr (Or.inl ⟨_, Or.inr (Value.isLeaf_addNumber _ _ _), (Except.ok.inj h).symm⟩)
            · cases h

-- Only a path that leads to a field or into it touches it.
theorem get?_applyOperator {op path key : String} {v : Value} {d : Document} {result : Document × Bool}
    (hpath : ∀ rest, Path.segments path ≠ key :: rest) (h : applyOperator op path v d = .ok result) :
    result.1.get? key = d.get? key := by
  rcases applyOperator_cases h with ⟨_, rfl⟩ | ⟨w, _, rfl⟩ | ⟨_, rfl⟩
  · rfl
  · exact get?_setPath hpath d w
  · exact get?_unsetPath hpath d

theorem id?_applyOperator {op path : String} {v : Value} {d : Document} {result : Document × Bool}
    (hbelow : Path.isBelowId path = false) (hid : path ≠ "_id")
    (h : applyOperator op path v d = .ok result) : result.1.id? = d.id? :=
  get?_applyOperator (Path.segments_ne_of_not_below hbelow hid) h

-- The identifier itself is set to one that is the same, or left alone.
theorem applyOperator_id {op : String} {v : Value} {d : Document} {result : Document × Bool}
    (h : applyOperator op "_id" v d = .ok result) :
    result.1 = d ∨ result.1.id? = some v ∧ ∀ id, d.id? = some id → id.same v = true := by
  unfold applyOperator at h
  by_cases hset : op = "$set"
  · simp only [hset, ne_eq, not_true_eq_false, and_false, if_false, if_true] at h
    split at h
    · next current hcurrent =>
        split at h
        · cases h
        · next hsame =>
            cases h
            refine Or.inr ⟨OrderedMap.get?_insert_self d "_id" v, fun id hsome => ?_⟩
            have hid : current = id := Option.some.inj (hcurrent.symm.trans hsome)
            simpa [hid] using hsame
    · next hnone =>
        cases h
        refine Or.inr ⟨OrderedMap.get?_insert_self d "_id" v, fun id hsome => ?_⟩
        cases hnone.symm.trans hsome
  · rw [if_pos ⟨rfl, hset⟩] at h
    cases h
    exact Or.inl rfl

theorem applyOperator_keepsId {op path : String} {v : Value} {d : Document}
    {result : Document × Bool} (hbelow : Path.isBelowId path = false) (hv : v.WellFormed)
    (h : applyOperator op path v d = .ok result) : d.KeepsId result.1 := by
  by_cases hid : path = "_id"
  · subst hid
    rcases applyOperator_id h with hsame | ⟨hset, hsame⟩
    · exact hsame ▸ KeepsId.refl d
    · exact Or.inr ⟨v, hv, hset, hsame⟩
  · exact Or.inl (id?_applyOperator hbelow hid h)

theorem applyFields_keepsId {op : String} {fields d : Document}
    (hspare : ∀ field ∈ fields, Path.isBelowId field.1 = false)
    (hwf : ∀ field ∈ fields, field.2.WellFormed) : d.KeepsId (applyFields op fields d).document := by
  induction fields generalizing d with
  | nil => exact KeepsId.refl d
  | cons field rest ih =>
      obtain ⟨path, v⟩ := field
      obtain ⟨hpath, hrest⟩ := List.forall_mem_cons.mp hspare
      obtain ⟨hv, hwfrest⟩ := List.forall_mem_cons.mp hwf
      unfold applyFields
      split
      · exact KeepsId.refl d
      · next next changed hstep => exact (applyOperator_keepsId hpath hv hstep).trans (ih hrest hwfrest)

-- What an update makes of a document has the same identifier, also where the
-- update breaks off.
theorem applyUpdate_keepsId {update d : Document} (hspare : update.sparesId = true)
    (hwf : (Value.document update).WellFormed) : d.KeepsId (update.applyUpdate d).document := by
  replace hwf := Value.wellFormedFields_iff.mp hwf.2
  induction update generalizing d with
  | nil => exact KeepsId.refl d
  | cons entry rest ih =>
      obtain ⟨op, arg⟩ := entry
      obtain ⟨harg, hrest⟩ := List.forall_mem_cons.mp hwf
      simp only [sparesId, List.all_cons, Bool.and_eq_true] at hspare
      cases arg with
      | document fields =>
          have hpaths : ∀ field ∈ fields, Path.isBelowId field.1 = false := by simpa using hspare.1
          have hfields := Value.wellFormedFields_iff.mp harg.2
          have hfirst : d.KeepsId (applyFields op fields d).document := applyFields_keepsId hpaths hfields
          simp only [applyUpdate]
          split
          · exact hfirst
          · exact hfirst.trans (ih hspare.2 hrest)
      | _ => exact KeepsId.refl d

end Document

end DocStore
