import DocStore.Proofs.Document.Field
import DocStore.Proofs.Execute.Update
import DocStore.Proofs.Text.Case

namespace DocStore

namespace Text

theorem toLower_eq_dot_iff (c : Char) : c.toLower = '.' ↔ c = '.' := by
  constructor
  · intro h
    by_contra hc
    have hletters : ∀ d : Char, d.isAlpha = true → d ≠ '.' := by
      rintro d hd rfl
      cases hd
    exact (forms_of_letters hletters hc).1 h
  · rintro rfl
    rfl

-- Letters that are made small stay in their pieces.
theorem splitAt_map_toLower (cs : List Char) :
    splitAt (· == '.') (cs.map Char.toLower) = (splitAt (· == '.') cs).map (·.map Char.toLower) := by
  induction cs with
  | nil => rfl
  | cons c rest ih =>
      simp only [List.map_cons, splitAt, ih, beq_iff_eq, toLower_eq_dot_iff]
      split
      · rfl
      · cases splitAt (· == '.') rest <;> rfl

end Text

namespace Path

theorem segments_asciiLowercase (path : String) :
    segments (Text.asciiLowercase path) = (segments path).map Text.asciiLowercase := by
  simp only [segments, Text.splitOnChar, Text.asciiLowercase, String.toList_ofList,
    Text.splitAt_map_toLower, List.map_map]
  refine List.map_congr_left fun piece _ => ?_
  simp [Text.asciiLowercase]

theorem top_asciiLowercase (path : String) : top (Text.asciiLowercase path) = Text.asciiLowercase (top path) := by
  unfold top
  rw [segments_asciiLowercase]
  cases segments path <;> rfl

-- Paths that are the same but for case begin with fields that are so.
theorem equalIgnoringAsciiCase_top {p q : String} (h : Text.equalIgnoringAsciiCase p q = true) :
    Text.equalIgnoringAsciiCase (top p) (top q) = true := by
  have hlower : Text.asciiLowercase p = Text.asciiLowercase q := by simpa [Text.equalIgnoringAsciiCase] using h
  simp [Text.equalIgnoringAsciiCase, ← top_asciiLowercase, hlower]

end Path

namespace Execute

-- What may become of a document where only some fields of the selected ones may change.
structure Confined (selector : Document) (allowed : List String) (d e : Document) : Prop where
  unselected : Selector.holds d selector ≠ .ok true → e = d
  fields : ∀ key, (∀ name ∈ allowed, Text.equalIgnoringAsciiCase (Path.top name) key = false) →
    e.get? key = d.get? key

variable {scope : Scope} {g : GroupedQuery} {selector : Document} {params : Params} {client : Client}
  {clauses : List Clause} {allowed : List String} {d e : Document} {key : String}

theorem Confined.refl (selector : Document) (allowed : List String) (d : Document) :
    Confined selector allowed d d :=
  ⟨fun _ => rfl, fun _ _ => rfl⟩

-- Every field of the payload that is let through is on the list.
theorem allowed_of_mem (hallowed : allowed ≠ []) {path : String}
    (h : path ∈ OrderedMap.keys (allowedFields allowed d)) :
    ∃ name ∈ allowed, Text.equalIgnoringAsciiCase name path = true := by
  obtain ⟨field, hfield, rfl⟩ := List.mem_map.mp h
  have hlet := (List.mem_filter.mp hfield).2
  simp only [Bool.and_eq_true, Bool.or_eq_true, List.isEmpty_iff, hallowed, false_or, List.any_eq_true] at hlet
  exact hlet.2

theorem top_ne_of_not_allowed (hallowed : allowed ≠ [])
    (hkey : ∀ name ∈ allowed, Text.equalIgnoringAsciiCase (Path.top name) key = false) {path : String}
    (h : path ∈ OrderedMap.keys (allowedFields allowed d)) : Path.top path ≠ key := by
  rintro rfl
  obtain ⟨name, hname, hsame⟩ := allowed_of_mem hallowed h
  exact absurd (Path.equalIgnoringAsciiCase_top hsame) (by simp [hkey name hname])

theorem updated_confined (hallowed : allowed ≠ []) {data : Document}
    (h : Collection.updated selector (setOf (allowedFields allowed data)) d = .ok e) :
    Confined selector allowed d e := by
  rcases Collection.updated_cases h with rfl | ⟨hselected, _, rfl⟩
  · exact Confined.refl selector allowed e
  · refine ⟨fun hunselected => absurd hselected hunselected, fun key hkey => ?_⟩
    unfold setOf
    rw [Document.applyUpdate_singleton]
    exact Document.get?_applyFields fun path hpath => top_ne_of_not_allowed hallowed hkey hpath

theorem seen_perform_update_of_error {e : StoreError} (params : Params)
    (hmissing : client.store.seen scope.session g.table = .error e) (other : Option SessionId) (key : String) :
    (perform scope g selector params .update client).2.store.seen other key = client.store.seen other key := by
  rcases perform_update_cases scope g selector params with ⟨missing, hrefuse⟩ | ⟨activity, hone⟩ |
    ⟨activity, hmany⟩
  · rw [hrefuse]
    rfl
  · rw [hone, ClientM.map_snd, Scope.issue_store]
    exact Store.seen_perform_of_error rfl hmissing other key
  · rw [hmany, ClientM.map_snd, Scope.issue_store]
    exact Store.seen_perform_of_error rfl hmissing other key

-- An update query that names fields leaves as many documents in the same order, and each of them
-- outside these fields and where it is not selected as it was, whether it succeeds or not. In other
-- collections, for others and where there is nothing to update nothing changes.
theorem update_confined (params : Params) (client : Client)
    (hgroup : GroupedQuery.ofClauses clauses = .ok g) (hkind : g.kind = some .update)
    (hallowed : g.updateFields ≠ []) (hmulti : params.singleUpdate = false) :
    let after := (run scope clauses params client).2.store
    let unchanged := ∀ other key, after.seen other key = client.store.seen other key
    (∀ e, g.selector scope.config.compositePolicy = .error e → unchanged) ∧
      (∀ e, client.store.seen scope.session g.table = .error e → unchanged) ∧
      ∀ selector docs, g.selector scope.config.compositePolicy = .ok selector →
        client.store.seen scope.session g.table = .ok docs →
          ∃ docs', after.Shows client.store scope.session g.table docs' ∧
            List.Forall₂ (Confined selector g.updateFields) docs docs' := by
  have hprepare : prepare scope clauses =
      (g.selector scope.config.compositePolicy).map (g, ·) := by
    unfold prepare
    rw [hgroup]
    rfl
  have hrefused {e : DbError} (h : g.selector scope.config.compositePolicy = .error e) :
      (run scope clauses params client).2 = client := by
    rw [h] at hprepare
    simp only [run, hprepare, Except.map]
  refine ⟨fun e h other key => by rw [hrefused h], fun e hmissing other key => ?_, ?_⟩
  · cases hselector : g.selector scope.config.compositePolicy with
    | error own => rw [hrefused hselector]
    | ok selector =>
        rw [hselector] at hprepare
        obtain ⟨event, hrun⟩ := run_of_kind params client hprepare hkind
        rw [hrun]
        exact seen_perform_update_of_error params hmissing other key
  · intro selector docs hselector hdocs
    rw [hselector] at hprepare
    have hfields : fieldsToSet scope g params =
        allowedFields g.updateFields (scope.config.fieldNaming.renameKeys (params.data.getD [])) := by
      simp [fieldsToSet, hmulti]
    rcases run_update_cases params hprepare hkind hdocs with ⟨_, hshows⟩ | ⟨onlyFirst, _, hshows⟩
    · exact ⟨docs, hshows, List.forall₂_same.mpr fun d _ => Confined.refl _ _ d⟩
    · refine ⟨_, hshows, ?_⟩
      rw [hfields]
      refine (Collection.updateEach_documents _ _ _ onlyFirst docs).imp fun d e h => ?_
      rcases h with rfl | hupdated
      · exact Confined.refl _ _ e
      · exact updated_confined hallowed hupdated

def members : List Document :=
  [[("_id", .int32 1), ("name", .string "Ada")], [("_id", .int32 2), ("name", .string "Bob")]]

def membership : Client := { store := { committed := [("c", members)] } }

-- What may change is a field of a document in the field.
def promote : List Clause :=
  [.table "c", .filter (.field "_id" (.equal (.int32 1))), .update ["Post.Since"]]

-- The name is not on the list, and the path that is on it is written in small letters.
def promotion : Document := [("name", .string "Eve"), ("post.since", .int32 7)]

theorem update_confined_promote :
    (run { config := {} } promote { data := some promotion } membership).2.store.seen none "c" = .ok
        [[("_id", .int32 1), ("name", .string "Ada"), ("post", .document [("since", .int32 7)])],
          [("_id", .int32 2), ("name", .string "Bob")]] ∧
      ∃ docs', (run { config := {} } promote { data := some promotion } membership).2.store.Shows
          membership.store none "c" docs' ∧
        List.Forall₂ (fun d e => e.get? "name" = d.get? "name") members docs' := by
  refine ⟨rfl, ?_⟩
  have hconfined := @update_confined { config := {} }
    { table := "c", filter := some (.field "_id" (.equal (.int32 1))), updateFields := ["Post.Since"],
      kind := some .update }
    promote { data := some promotion } membership rfl rfl (by simp) rfl
  obtain ⟨docs', hshows, hfields⟩ := hconfined.2.2 _ members rfl rfl
  exact ⟨docs', hshows, hfields.imp fun d e h => h.fields "name" (by decide)⟩

end Execute

end DocStore
