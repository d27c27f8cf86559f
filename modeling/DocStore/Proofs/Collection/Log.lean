import DocStore.Proofs.Collection.Identifier
import DocStore.Proofs.Value.NaN

namespace DocStore

namespace Document

theorem KeepsId.sharesId_self {d e : Document} (h : d.KeepsId e) (hd : d.Identified)
    (hself : d.sharesId d = true) : e.sharesId e = true := by
  obtain ⟨id, hid, hwf⟩ := hd
  rcases h with hsame | ⟨v, hv, hev, hsame⟩
  · simpa [Document.sharesId, hsame, hid] using hself
  · have hidv : id.same v = true := hsame id hid
    have hvid : v.same id = true := Value.same_symm hwf hv hidv
    simpa [Document.sharesId, hev] using Value.same_trans hvid hidv

-- What keeps its identifier can still be found by it.
theorem KeepsId.sharesId_after {d e : Document} (h : d.KeepsId e) (hself : d.sharesId d = true) :
    d.sharesId e = true := by
  rcases h with hsame | ⟨v, _, hev, hsame⟩
  · simpa [Document.sharesId, hsame] using hself
  · cases hid : d.id? with
    | none => simp [Document.sharesId, hid] at hself
    | some id => simpa [Document.sharesId, hid, hev] using hsame id hid

end Document

namespace Collection

-- The documents with `full` in the place of the one with the identifier.
def putInPlace (id : Value) (full : Document) (docs : List Document) : List Document :=
  docs.map fun d => if holdsId id d then full else d

-- What an event makes of the documents of its collection.
def replayEvent (docs : List Document) (event : Document) : List Document :=
  let full := (event.document? "fullDocument").getD []
  let id := (((event.document? "documentKey").getD []).get? "_id").getD .null
  match event.string? "operationType" with
  | some "insert" => docs ++ [full]
  | some "update" => putInPlace id full docs
  | some "replace" => putInPlace id full docs
  | some "delete" => docs.filter (!holdsId id ·)
  | _ => docs

def replay (events docs : List Document) : List Document := events.foldl replayEvent docs

-- Whether every document can be told from the others by its identifier.
structure Keyed (docs : List Document) : Prop where
  identified : Identified docs
  unique : UniqueIds docs
  self : ∀ d ∈ docs, d.sharesId d = true

@[simp] theorem replay_nil (docs : List Document) : replay [] docs = docs := rfl

theorem replay_append (events others docs : List Document) :
    replay (events ++ others) docs = replay others (replay events docs) := by
  simp [replay]

-- Identifiers that are there, that are distinct and that hold no NaN.
theorem keyed_of_no_nan {docs : List Document} (hi : Identified docs) (hu : UniqueIds docs)
    (hnan : ∀ d ∈ docs, ∀ id, d.id? = some id → id.hasNaN = false) : Keyed docs := by
  refine ⟨hi, hu, fun d hd => ?_⟩
  obtain ⟨id, hid, hwf⟩ := hi d hd
  have hself : id.same id = true := (Value.same_self_iff hwf).mpr (hnan d hd id hid)
  simpa [Document.sharesId, hid] using hself

section

variable {docs docs' front rest : List Document} {d next : Document} {name : String}

theorem Keyed.of_keepsId (hk : Keyed docs) (h : List.Forall₂ Document.KeepsId docs docs') : Keyed docs' := by
  refine ⟨identified_of_keepsId h hk.identified, hk.unique.of_keepsId h hk.identified, fun e he => ?_⟩
  obtain ⟨d, hd, hkeep⟩ := exists_of_mem_after h he
  exact hkeep.sharesId_self (hk.identified d hd) (hk.self d hd)

theorem Keyed.of_sublist (hk : Keyed docs) (h : docs'.Sublist docs) : Keyed docs' :=
  ⟨fun d hd => hk.identified d (h.subset hd), hk.unique.sublist h, fun d hd => hk.self d (h.subset hd)⟩

theorem holdsId_id {id : Value} (h : next.id? = some id) (d : Document) :
    holdsId id d = d.sharesId next := by
  simp only [holdsId, Document.sharesId, h]
  cases d.id? <;> rfl

-- The identifier that a document keeps finds it, and it finds no other one.
theorem Keyed.holdsId_kept (hk : Keyed (front ++ d :: rest)) (hkeep : d.KeepsId next) {id : Value}
    (hid : next.id? = some id) : holdsId id d = true ∧ ∀ e ∈ front ++ rest, holdsId id e = false := by
  have hmem : d ∈ front ++ d :: rest := by simp
  have hapart : ∀ e ∈ front ++ rest, e.sharesId d = false := by
    obtain ⟨_, htail, hcross⟩ := List.pairwise_append.mp hk.unique
    intro e he
    rcases List.mem_append.mp he with hfront | hrest
    · exact (hcross e hfront d List.mem_cons_self).1
    · exact ((List.pairwise_cons.mp htail).1 e hrest).2
  refine ⟨(holdsId_id hid d).trans (hkeep.sharesId_after (hk.self d hmem)), fun e he => ?_⟩
  have hother : e ∈ front ++ d :: rest := by
    rcases List.mem_append.mp he with hfront | hrest
    · exact List.mem_append_left _ hfront
    · exact List.mem_append_right front (List.mem_cons_of_mem d hrest)
  rw [holdsId_id hid, Bool.eq_false_iff]
  intro hshares
  have hbefore : e.sharesId d = true :=
    (Document.KeepsId.refl e).sharesId hkeep (hk.identified e hother) (hk.identified d hmem) hshares
  rw [hapart e he] at hbefore
  cases hbefore

theorem putInPlace_eq {id : Value} (hd : holdsId id d = true)
    (hothers : ∀ e ∈ front ++ rest, holdsId id e = false) :
    putInPlace id next (front ++ d :: rest) = front ++ next :: rest := by
  obtain ⟨hfront, hrest⟩ := List.forall_mem_append.mp hothers
  have hkept {part : List Document} (h : ∀ e ∈ part, holdsId id e = false) :
      putInPlace id next part = part := by
    unfold putInPlace
    exact (List.map_congr_left fun e he => by rw [h e he]; rfl).trans (List.map_id _)
  have hsplit : putInPlace id next (front ++ d :: rest) =
      putInPlace id next front ++ next :: putInPlace id next rest := by
    simp [putInPlace, hd]
  rw [hsplit, hkept hfront, hkept hrest]

theorem filter_not_holdsId {id : Value} (hd : holdsId id d = true)
    (hothers : ∀ e ∈ front ++ rest, holdsId id e = false) :
    (front ++ d :: rest).filter (!holdsId id ·) = front ++ rest := by
  have hkept : (front ++ rest).filter (!holdsId id ·) = front ++ rest :=
    List.filter_eq_self.mpr fun e he => by rw [hothers e he]; rfl
  rw [List.filter_append] at hkept ⊢
  rw [List.filter_cons_of_neg (by simp [hd]), hkept]

-- One change in the middle of the documents, as the log tells it.
theorem Keyed.replay_changed (hk : Keyed (front ++ d :: rest)) (hkeep : d.KeepsId next) {kind : String}
    (hkind : kind = "update" ∨ kind = "replace") :
    replay [next.changeEvent kind name] (front ++ d :: rest) = front ++ next :: rest := by
  obtain ⟨id, hid, _⟩ := hkeep.identified (hk.identified d (by simp))
  obtain ⟨hd, hothers⟩ := hk.holdsId_kept hkeep hid
  have hevent : replay [next.changeEvent kind name] (front ++ d :: rest) =
      putInPlace (next.id?.getD .null) next (front ++ d :: rest) := by
    rcases hkind with rfl | rfl <;> rfl
  rw [hevent, hid]
  exact putInPlace_eq hd hothers

theorem Keyed.replay_deleted (hk : Keyed (front ++ d :: rest)) :
    replay [d.changeEvent "delete" name] (front ++ d :: rest) = front ++ rest := by
  obtain ⟨id, hid, _⟩ := hk.identified d (by simp)
  obtain ⟨hd, hothers⟩ := hk.holdsId_kept (Document.KeepsId.refl d) hid
  have hevent : replay [d.changeEvent "delete" name] (front ++ d :: rest) =
      (front ++ d :: rest).filter (!holdsId (d.id?.getD .null) ·) := rfl
  rw [hevent, hid]
  exact filter_not_holdsId hd hothers

theorem replay_inserted (d : Document) (docs : List Document) (name : String) :
    replay [d.changeEvent "insert" name] docs = docs ++ [d] := rfl

end

section

variable {name : String} {selector update replacement : Document} {onlyFirst : Bool}
  {fresh : ObjectId} {docs : List Document}

theorem keepsId_middle {d next : Document} (h : d.KeepsId next) (front rest : List Document) :
    List.Forall₂ Document.KeepsId (front ++ d :: rest) (front ++ next :: rest) :=
  List.rel_append (keepsId_refl front) (.cons h (keepsId_refl rest))

-- An update goes through the documents one by one; those in `front` are done with.
theorem replay_updateEach (front : List Document) (hspare : update.sparesId = true)
    (hwf : (Value.document update).WellFormed) (hk : Keyed (front ++ docs)) :
    replay (updateEach name selector update onlyFirst docs).events (front ++ docs) =
      front ++ (updateEach name selector update onlyFirst docs).documents := by
  induction docs generalizing front with
  | nil => rfl
  | cons d rest ih =>
      have hstep (next : Document) (hkeep : d.KeepsId next) :
          replay (updateEach name selector update onlyFirst rest).events (front ++ next :: rest) =
            front ++ next :: (updateEach name selector update onlyFirst rest).documents := by
        have hnext : Keyed (front ++ next :: rest) := hk.of_keepsId (keepsId_middle hkeep front rest)
        have hrest := ih (front ++ [next]) (by simpa using hnext)
        simpa using hrest
      unfold updateEach
      cases hd : Selector.holds d selector with
      | error e => rfl
      | ok hit =>
          cases hit with
          | false => exact hstep d (Document.KeepsId.refl d)
          | true =>
              dsimp only
              cases ho : (update.applyUpdate d).outcome with
              | error e => rfl
              | ok changed =>
                  have hkeep : d.KeepsId (update.applyUpdate d).document :=
                    Document.applyUpdate_keepsId hspare hwf
                  have hafter (next : Document) (hkeep : d.KeepsId next) :
                      replay (if onlyFirst then (⟨rest, [], .ok {}⟩ : Write UpdateReport)
                          else updateEach name selector update onlyFirst rest).events
                          (front ++ next :: rest) =
                        front ++ next :: (if onlyFirst then (⟨rest, [], .ok {}⟩ : Write UpdateReport)
                          else updateEach name selector update onlyFirst rest).documents := by
                    cases onlyFirst with
                    | true => rfl
                    | false => exact hstep next hkeep
                  cases changed with
                  | false => simpa using hafter d (Document.KeepsId.refl d)
                  | true =>
                      simp only [if_true]
                      rw [replay_append, hk.replay_changed hkeep (Or.inl rfl)]
                      exact hafter _ hkeep

theorem replay_replaceFirst (front : List Document) (hk : Keyed (front ++ docs)) :
    replay (replaceFirst name selector replacement fresh docs).events (front ++ docs) =
      front ++ (replaceFirst name selector replacement fresh docs).documents := by
  induction docs generalizing front with
  | nil => rfl
  | cons d rest ih =>
      unfold replaceFirst
      cases hd : Selector.holds d selector with
      | error e => rfl
      | ok hit =>
          cases hit with
          | false =>
              have hrest := ih (front ++ [d]) (by simpa using hk)
              simpa [keep] using hrest
          | true =>
              dsimp only
              split
              · rfl
              · obtain ⟨id, hid, _⟩ := hk.identified d (by simp)
                exact hk.replay_changed (Or.inl (by simp [hid])) (Or.inr rfl)

theorem replay_marked (front : List Document) {hits : List Bool} (hmarks : marks selector docs = .ok hits)
    (hk : Keyed (front ++ docs)) :
    replay ((((docs.zip hits).filter (·.2)).map (·.1)).map (·.changeEvent "delete" name)) (front ++ docs) =
      front ++ ((docs.zip hits).filter (!·.2)).map (·.1) := by
  induction docs generalizing front hits with
  | nil => rfl
  | cons d rest ih =>
      unfold marks at hmarks
      split at hmarks
      · next hit _ =>
          obtain ⟨others, hothers, rfl⟩ := Except.map_eq_ok_iff.mp hmarks
          cases hit with
          | true =>
              have hshorter : (front ++ rest).Sublist (front ++ d :: rest) :=
                (List.Sublist.refl front).append (List.sublist_cons_self d rest)
              have hrest := ih front hothers (hk.of_sublist hshorter)
              simp only [List.zip_cons_cons, List.filter_cons, if_true, List.map_cons]
              rw [← List.singleton_append, replay_append, hk.replay_deleted]
              simpa using hrest
          | false =>
              have hrest := ih (front ++ [d]) hothers (by simpa using hk)
              simpa using hrest
      · cases hmarks

-- Replaying the events of a write does to the documents what the write did.
theorem replay_insertOne (d : Document) :
    replay (insertOne name d fresh docs).events docs = (insertOne name d fresh docs).documents := by
  unfold insertOne
  dsimp only
  split <;> rfl

theorem replay_update {upsert : Bool} (hspare : update.sparesId = true)
    (hwf : (Value.document update).WellFormed) (hk : Keyed docs) :
    replay (Collection.update name selector update upsert onlyFirst fresh docs).events docs =
      (Collection.update name selector update upsert onlyFirst fresh docs).documents := by
  have heach : replay (updateEach name selector update onlyFirst docs).events docs =
      (updateEach name selector update onlyFirst docs).documents :=
    replay_updateEach [] hspare hwf hk
  unfold Collection.update
  dsimp only
  split
  · exact heach
  · split
    · split
      · exact heach
      · rw [replay_append, heach, replay_inserted]
    · exact heach

theorem replay_replaceOne {upsert : Bool} (hk : Keyed docs) :
    replay (replaceOne name selector replacement upsert fresh docs).events docs =
      (replaceOne name selector replacement upsert fresh docs).documents := by
  have hfirst : replay (replaceFirst name selector replacement fresh docs).events docs =
      (replaceFirst name selector replacement fresh docs).documents := replay_replaceFirst [] hk
  unfold replaceOne
  dsimp only
  split
  · exact hfirst
  · split
    · rfl
    · exact hfirst

theorem replay_deleteMany (hk : Keyed docs) :
    replay (deleteMany name selector docs).events docs = (deleteMany name selector docs).documents := by
  unfold deleteMany
  split
  · rfl
  · next hits hmarks => exact replay_marked [] hmarks hk

end

end Collection

end DocStore
