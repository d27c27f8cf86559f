import DocStore.Proofs.Selector.Lookup
import DocStore.Proofs.Store.Identifier
import DocStore.Proofs.Store.Write

namespace DocStore

-- Whether a call adds documents by inserting them alone, and changes none.
def Call.onlyInserts : Call → Bool
  | updateMany .. => false
  | updateOne .. => false
  | replaceOne .. => false
  | _ => true

namespace Collection

-- Whether no plain value is the identifier of two documents, as lookups see it.
def LookupsSingle (docs : List Document) : Prop :=
  ∀ v : Value, v.isPlain = true → v.WellFormed →
    ∃ found, Selector.select [("_id", v)] docs = .ok found ∧ found.length ≤ 1

-- Whether the identifiers of two documents differ in the sense of lookups.
def IdsApart (d e : Document) : Prop :=
  ∀ a b, d.id? = some a → e.id? = some b → Selector.Apart a b

-- Whether the identifiers of two documents are numbers of one size.
def IdsLevel (d e : Document) : Prop :=
  ∃ a b, d.id? = some a ∧ e.id? = some b ∧ a.isNumber = true ∧ b.isNumber = true ∧ a.order b = .eq

variable {docs : List Document} {d e : Document}

theorem select_id {v : Value} (hv : v.isData = true) (docs : List Document) :
    Selector.select [("_id", v)] docs = .ok (docs.filter fun d => Selector.equals d.id? v) :=
  Selector.select_eq_filter fun d _ => Selector.holds_id_of_isData d hv

theorem length_filter_le_one_iff {α : Type} (p : α → Bool) (l : List α) :
    (l.filter p).length ≤ 1 ↔ l.Pairwise fun x y => ¬ (p x = true ∧ p y = true) := by
  have hlength (m : List α) : m.length ≤ 1 ↔ m.Pairwise fun _ _ => False := by
    match m with
    | [] => simp
    | [x] => simp
    | x :: y :: rest =>
        exact iff_of_false (by simp) fun h => (List.pairwise_cons.mp h).1 y List.mem_cons_self
  rw [hlength, List.pairwise_filter]
  simp [imp_false]

theorem idsApart_iff (hd : d.Identified) (he : e.Identified) :
    IdsApart d e ↔ ∀ v : Value, v.isPlain = true → v.WellFormed →
      ¬ (Selector.equals d.id? v = true ∧ Selector.equals e.id? v = true) := by
  obtain ⟨a, ha, hawf⟩ := hd
  obtain ⟨b, hb, hbwf⟩ := he
  rw [ha, hb, ← Selector.apart_iff hawf hbwf]
  simp [IdsApart, ha, hb]

theorem lookupsSingle_iff (hdocs : Identified docs) : LookupsSingle docs ↔ docs.Pairwise IdsApart := by
  have hsingle (v : Value) (hv : v.isPlain = true) :
      (∃ found, Selector.select [("_id", v)] docs = .ok found ∧ found.length ≤ 1) ↔
        docs.Pairwise fun d e => ¬ (Selector.equals d.id? v = true ∧ Selector.equals e.id? v = true) := by
    rw [select_id (Value.isData_of_isPlain hv), ← length_filter_le_one_iff]
    simp
  have hapart : docs.Pairwise IdsApart ↔ docs.Pairwise fun d e => ∀ v : Value, v.isPlain = true →
      v.WellFormed → ¬ (Selector.equals d.id? v = true ∧ Selector.equals e.id? v = true) :=
    List.Pairwise.iff_of_mem fun hd he => idsApart_iff (hdocs _ hd) (hdocs _ he)
  rw [hapart]
  simp only [List.pairwise_iff_getElem]
  constructor
  · intro h i j hi hj hij v hv hvwf
    exact List.pairwise_iff_getElem.mp ((hsingle v hv).mp (h v hv hvwf)) i j hi hj hij
  · intro h v hv hvwf
    exact (hsingle v hv).mpr (List.pairwise_iff_getElem.mpr fun i j hi hj hij => h i j hi hj hij v hv hvwf)

theorem idsApart_iff_of_not_array (hd : d.Identified) (he : e.Identified) (hdiffer : d.sharesId e = false)
    (hdarray : ∀ id, d.id? = some id → id.array? = none) (hearray : ∀ id, e.id? = some id → id.array? = none) :
    IdsApart d e ↔ ¬ IdsLevel d e := by
  obtain ⟨a, ha, _⟩ := hd
  obtain ⟨b, hb, _⟩ := he
  have hsame : a.same b = false := by simpa [Document.sharesId, ha, hb] using hdiffer
  have hiff := Selector.apart_iff_of_not_array (hdarray a ha) (hearray b hb) hsame
  simpa [IdsApart, IdsLevel, ha, hb] using hiff

-- Among identifiers that are no arrays, only numbers of one size are taken for each other.
theorem lookupsSingle_iff_of_no_array (hdocs : Identified docs) (hu : UniqueIds docs)
    (harray : ∀ d ∈ docs, ∀ id, d.id? = some id → id.array? = none) :
    LookupsSingle docs ↔ docs.Pairwise fun d e => ¬ IdsLevel d e := by
  rw [lookupsSingle_iff hdocs]
  simp only [UniqueIds, List.pairwise_iff_getElem] at hu ⊢
  have hpair (i j : Nat) (hi : i < docs.length) (hj : j < docs.length) (hij : i < j) :
      IdsApart docs[i] docs[j] ↔ ¬ IdsLevel docs[i] docs[j] :=
    idsApart_iff_of_not_array (hdocs _ (List.getElem_mem hi)) (hdocs _ (List.getElem_mem hj))
      (hu i j hi hj hij).1 (harray _ (List.getElem_mem hi)) (harray _ (List.getElem_mem hj))
  constructor
  · exact fun h i j hi hj hij => (hpair i j hi hj hij).mp (h i j hi hj hij)
  · exact fun h i j hi hj hij => (hpair i j hi hj hij).mpr (h i j hi hj hij)

end Collection

namespace Store

theorem not_repeatsId_of_onlyInserts {c : Call} (hc : c.onlyInserts = true) (s : Store)
    (session : Option SessionId) : ¬ s.RepeatsId session c := by
  rintro ⟨_, data, name, created, _, _, hadded, _⟩
  cases c <;> first | cases hadded | cases hc

theorem sparesId_of_onlyInserts {c : Call} (hc : c.onlyInserts = true) : c.sparesId = true := by
  cases c <;> first | rfl | cases hc

-- Insertions leave every document an identifier of its own.
theorem after_inserts {s : Store} (hi : s.Identified) (hu : s.UniqueIds)
    {calls : List (Option SessionId × Call)}
    (hcalls : ∀ made ∈ calls, made.2.WellFormed ∧ made.2.onlyInserts = true) :
    (s.after calls).Identified ∧ (s.after calls).UniqueIds := by
  induction calls generalizing s with
  | nil => exact ⟨hi, hu⟩
  | cons made rest ih =>
      obtain ⟨⟨hwf, honly⟩, hrest⟩ := List.forall_mem_cons.mp hcalls
      have hspare := sparesId_of_onlyInserts honly
      have hnext := (hu.perform_iff hi hwf hspare made.1).mpr (not_repeatsId_of_onlyInserts honly s made.1)
      exact ih (hi.perform hwf hspare made.1) hnext hrest

-- In every collection that insertions lead to, a lookup by an identifier finds at
-- most one document exactly as long as the identifiers differ in the sense of
-- lookups; where none of them is an array, as long as no two are numbers of one size.
theorem lookups_after_inserts (calls : List (Option SessionId × Call))
    (hcalls : ∀ made ∈ calls, made.2.WellFormed ∧ made.2.onlyInserts = true)
    (session : Option SessionId) (name : String) (docs : List Document)
    (hdocs : (empty.after calls).seen session name = .ok docs) :
    (∀ v : Value, v.isPlain = true →
      Selector.select [("_id", v)] docs = .ok (docs.filter fun d => Selector.equals d.id? v)) ∧
    (Collection.LookupsSingle docs ↔ docs.Pairwise Collection.IdsApart) ∧
    ((∀ d ∈ docs, ∀ id, d.id? = some id → id.array? = none) →
      (Collection.LookupsSingle docs ↔ docs.Pairwise fun d e => ¬ Collection.IdsLevel d e)) := by
  have hempty : empty.Identified ∧ empty.UniqueIds :=
    ⟨⟨fun _ he => (by cases he), fun _ he => (by cases he)⟩, fun _ he => (by cases he), fun _ he => (by cases he)⟩
  obtain ⟨hi, hu⟩ := after_inserts hempty.1 hempty.2 hcalls
  obtain ⟨data, hview, rfl⟩ := Except.map_eq_ok_iff.mp hdocs
  have hids := identified_documents (hi.of_view hview) name
  have hunique := uniqueIds_documents (hu.of_view hview) name
  exact ⟨fun v hv => Collection.select_id (Value.isData_of_isPlain hv) _, Collection.lookupsSingle_iff hids,
    Collection.lookupsSingle_iff_of_no_array hids hunique⟩

def inserts (ids : List Value) : List (Option SessionId × Call) :=
  ids.map fun id => (none, .insertOne "c" [("_id", id)])

theorem wellFormed_inserts {ids : List Value} (h : ∀ id ∈ ids, id.WellFormed) :
    ∀ made ∈ inserts ids, made.2.WellFormed ∧ made.2.onlyInserts = true := by
  intro made hmade
  obtain ⟨id, hid, rfl⟩ := List.mem_map.mp hmade
  refine ⟨fun d hd => ?_, rfl⟩
  rw [List.mem_singleton.mp hd]
  simpa [Value.WellFormed, Value.WellFormedFields, OrderedMap.Distinct, OrderedMap.keys] using h id hid

-- A number and its digits are told apart.
theorem lookups_after_inserts_numberAndText :
    (∀ made ∈ inserts [.int32 1, .string "1"], made.2.WellFormed ∧ made.2.onlyInserts = true) ∧
      Collection.LookupsSingle [[("_id", .int32 1)], [("_id", .string "1")]] := by
  have hcalls := @wellFormed_inserts [.int32 1, .string "1"] (by simp [Value.WellFormed])
  obtain ⟨_, _, hsingle⟩ := lookups_after_inserts (inserts [.int32 1, .string "1"]) hcalls none "c"
    [[("_id", .int32 1)], [("_id", .string "1")]] rfl
  have harray : ∀ d ∈ ([[("_id", .int32 1)], [("_id", .string "1")]] : List Document),
      ∀ id, d.id? = some id → id.array? = none := by
    simp [Document.id?, OrderedMap.get?, Value.array?]
  refine ⟨hcalls, (hsingle harray).mpr ?_⟩
  simp [Collection.IdsLevel, Document.id?, OrderedMap.get?, Value.isNumber]

-- Two types hold one number: both are inserted, and a lookup finds both.
theorem lookups_after_inserts_find_two :
    ¬ ∀ ids : List Value, (∀ id ∈ ids, id.WellFormed) →
      Collection.LookupsSingle ((empty.after (inserts ids)).documents "c") := by
  intro h
  have hsingle := h [.int32 1, .int64 1] (by simp [Value.WellFormed])
  obtain ⟨found, hfound, hlength⟩ := hsingle (.int32 1) rfl trivial
  have hboth : Selector.select [("_id", .int32 1)] ((empty.after (inserts [.int32 1, .int64 1])).documents "c") =
      .ok [[("_id", .int32 1)], [("_id", .int64 1)]] := rfl
  rw [← Except.ok.inj (hboth.symm.trans hfound)] at hlength
  exact absurd hlength (by decide)

end Store

end DocStore
