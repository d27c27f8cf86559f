import DocStore.Proofs.OrderedMap
import DocStore.Value.Equality
import Mathlib.Data.List.Perm.Subperm

namespace DocStore

namespace Double

theorem equal_comm (x y : Double) : x.equal y = y.equal x := by
  unfold equal
  rw [Bool.and_comm (!x.isNaN), Bool.beq_comm (a := x.bits), Bool.and_comm (x.pattern % signBit == 0)]

theorem equal_trans {x y z : Double} (hxy : x.equal y = true) (hyz : y.equal z = true) :
    x.equal z = true := by
  simp only [equal, Bool.and_eq_true, Bool.or_eq_true, beq_iff_eq] at hxy hyz ⊢
  refine ⟨⟨hxy.1.1, hyz.1.2⟩, ?_⟩
  rcases hxy.2 with hbits | hzero
  · simpa only [pattern, hbits] using hyz.2
  · rcases hyz.2 with hbits | hzero'
    · exact Or.inr ⟨hzero.1, by simpa only [pattern, hbits] using hzero.2⟩
    · exact Or.inr ⟨hzero.1, hzero'.2⟩

end Double

namespace Value

def isLeaf : Value → Bool
  | array _ => false
  | document _ => false
  | codeWithScope _ _ => false
  | _ => true

-- Values hold lists of values and of fields, so a proof by induction has its
-- hypothesis for every item and for every field.
@[elab_as_elim]
theorem tree_induction {motive : Value → Prop} (leaf : ∀ v : Value, v.isLeaf = true → motive v)
    (array : ∀ items, (∀ item ∈ items, motive item) → motive (.array items))
    (document : ∀ fields, (∀ field ∈ fields, motive field.2) → motive (.document fields))
    (codeWithScope : ∀ source scope, (∀ field ∈ scope, motive field.2) →
      motive (.codeWithScope source scope)) (v : Value) : motive v := by
  apply @Value.rec motive (fun items => ∀ item ∈ items, motive item)
    (fun fields => ∀ field ∈ fields, motive field.2) (fun field => motive field.2)
  any_goals intros; exact leaf _ rfl
  · exact array
  · exact document
  · exact codeWithScope
  · exact fun _ h => absurd h List.not_mem_nil
  · intro item rest hitem hrest other hother
    cases List.mem_cons.mp hother with
    | inl h => exact h ▸ hitem
    | inr h => exact hrest other h
  · exact fun _ h => absurd h List.not_mem_nil
  · intro field rest hfield hrest other hother
    cases List.mem_cons.mp hother with
    | inl h => exact h ▸ hfield
    | inr h => exact hrest other h
  · exact fun _ _ h => h

mutual

-- Whether no document within has a key twice.
def WellFormed : Value → Prop
  | .array items => WellFormedItems items
  | .document fields => OrderedMap.Distinct fields ∧ WellFormedFields fields
  | .codeWithScope _ scope => OrderedMap.Distinct scope ∧ WellFormedFields scope
  | _ => True

def WellFormedItems : List Value → Prop
  | [] => True
  | v :: rest => WellFormed v ∧ WellFormedItems rest

def WellFormedFields : List (String × Value) → Prop
  | [] => True
  | (_, v) :: rest => WellFormed v ∧ WellFormedFields rest

end

theorem wellFormedItems_iff {items : List Value} :
    WellFormedItems items ↔ ∀ item ∈ items, item.WellFormed := by
  induction items with
  | nil => simp [WellFormedItems]
  | cons v rest ih => simp [WellFormedItems, ih]

theorem wellFormedFields_iff {fields : List (String × Value)} :
    WellFormedFields fields ↔ ∀ field ∈ fields, field.2.WellFormed := by
  induction fields with
  | nil => simp [WellFormedFields]
  | cons field rest ih => simp [WellFormedFields, ih]

theorem wellFormed_document_iff {d : Document} :
    (document d).WellFormed ↔ OrderedMap.Distinct d ∧ ∀ field ∈ d, field.2.WellFormed := by
  rw [WellFormed, wellFormedFields_iff]

theorem wellFormed_of_isLeaf {v : Value} (h : v.isLeaf = true) : v.WellFormed := by
  cases v with
  | array | document | codeWithScope => cases h
  | _ => trivial

theorem sameFields_iff {s t : List (String × Value)} :
    sameFields s t = true ↔
      ∀ field ∈ s, ∃ v, OrderedMap.get? t field.1 = some v ∧ field.2.same v = true := by
  induction s with
  | nil => simp [sameFields]
  | cons field rest ih =>
      obtain ⟨key, a⟩ := field
      simp only [sameFields, Bool.and_eq_true, ih, List.forall_mem_cons]
      cases OrderedMap.get? t key <;> simp

-- What it takes for two values to be the same, by what they are made of.
theorem same_cases {a b : Value} (h : a.same b = true) :
    a = b ∨ (∃ x y, a = .double x ∧ b = .double y) ∨
      (∃ s t, a = .array s ∧ b = .array t ∧ sameItems s t = true) ∨
      (∃ s t, a = .document s ∧ b = .document t ∧ s.length = t.length ∧ sameFields s t = true) ∨
      (∃ source s t, a = .codeWithScope source s ∧ b = .codeWithScope source t ∧
        s.length = t.length ∧ sameFields s t = true) := by
  cases a <;> cases b <;> simp_all [same]

theorem sameItems_symm {s t : List Value} (h : sameItems s t = true)
    (hflip : ∀ a ∈ s, ∀ b ∈ t, a.same b = true → b.same a = true) : sameItems t s = true := by
  induction s generalizing t with
  | nil =>
      cases t with
      | nil => rfl
      | cons b rest => simp [sameItems] at h
  | cons a rest ih =>
      cases t with
      | nil => simp [sameItems] at h
      | cons b others =>
          simp only [sameItems, Bool.and_eq_true] at h ⊢
          refine ⟨hflip a List.mem_cons_self b List.mem_cons_self h.1, ih h.2 ?_⟩
          intro c hc d hd
          exact hflip c (List.mem_cons_of_mem a hc) d (List.mem_cons_of_mem b hd)

theorem sameItems_trans {s t u : List Value} (hst : sameItems s t = true) (htu : sameItems t u = true)
    (hstep : ∀ a ∈ s, ∀ b c : Value, a.same b = true → b.same c = true → a.same c = true) :
    sameItems s u = true := by
  induction s generalizing t u with
  | nil =>
      cases t with
      | nil => exact htu
      | cons b rest => simp [sameItems] at hst
  | cons a rest ih =>
      cases t with
      | nil => simp [sameItems] at hst
      | cons b others =>
          cases u with
          | nil => simp [sameItems] at htu
          | cons c last =>
              simp only [sameItems, Bool.and_eq_true] at hst htu ⊢
              refine ⟨hstep a List.mem_cons_self b c hst.1 htu.1, ih hst.2 htu.2 ?_⟩
              exact fun x hx => hstep x (List.mem_cons_of_mem a hx)

-- Both lists have as many keys, so the keys of one being keys of the other
-- goes both ways.
theorem get?_of_sameFields {s t : List (String × Value)} (hs : OrderedMap.Distinct s)
    (ht : OrderedMap.Distinct t) (hlen : s.length = t.length) (h : sameFields s t = true)
    {key : String} {b : Value} (hb : (key, b) ∈ t) :
    ∃ a, OrderedMap.get? s key = some a ∧ a.same b = true := by
  have hfound := sameFields_iff.mp h
  have hsubset : OrderedMap.keys s ⊆ OrderedMap.keys t := by
    intro k hk
    obtain ⟨field, hfield, rfl⟩ := List.mem_map.mp hk
    obtain ⟨v, hv, _⟩ := hfound field hfield
    exact OrderedMap.get?_isSome_iff.mp (by rw [hv]; rfl)
  have hkeys : key ∈ OrderedMap.keys s := by
    have hperm : (OrderedMap.keys s).Perm (OrderedMap.keys t) :=
      (List.subperm_of_subset hs hsubset).perm_of_length_le (by simp [OrderedMap.keys, hlen])
    exact hperm.mem_iff.mpr (List.mem_map_of_mem (f := (·.1)) hb)
  obtain ⟨a, ha⟩ := Option.isSome_iff_exists.mp (OrderedMap.get?_isSome_iff.mpr hkeys)
  obtain ⟨v, hv, hsame⟩ := hfound (key, a) (OrderedMap.mem_of_get? ha)
  have hvb : v = b := Option.some.inj (hv.symm.trans (ht.get?_of_mem hb))
  exact ⟨a, ha, hvb ▸ hsame⟩

-- Turning around what is known of every field that the first list holds.
theorem sameFields_symm {s t : List (String × Value)} (hs : OrderedMap.Distinct s)
    (ht : OrderedMap.Distinct t) (hlen : s.length = t.length) (h : sameFields s t = true)
    (hflip : ∀ field ∈ s, ∀ b, (field.1, b) ∈ t → field.2.same b = true → b.same field.2 = true) :
    sameFields t s = true := by
  rw [sameFields_iff]
  intro field hfield
  obtain ⟨a, ha, hsame⟩ := get?_of_sameFields hs ht hlen h hfield
  exact ⟨a, ha, hflip (field.1, a) (OrderedMap.mem_of_get? ha) field.2 hfield hsame⟩

theorem sameFields_trans {s t u : List (String × Value)} (hst : sameFields s t = true)
    (htu : sameFields t u = true)
    (hstep : ∀ field ∈ s, ∀ b c : Value, field.2.same b = true → b.same c = true →
      field.2.same c = true) : sameFields s u = true := by
  rw [sameFields_iff] at hst htu ⊢
  intro field hfield
  obtain ⟨b, hb, hab⟩ := hst field hfield
  obtain ⟨c, hc, hbc⟩ := htu _ (OrderedMap.mem_of_get? hb)
  exact ⟨c, hc, hstep field hfield b c hab hbc⟩

theorem same_symm {a b : Value} (ha : a.WellFormed) (hb : b.WellFormed) (h : a.same b = true) :
    b.same a = true := by
  induction a using tree_induction generalizing b with
  | leaf v hv =>
      rcases same_cases h with rfl | ⟨x, y, rfl, rfl⟩ | ⟨s, t, rfl, _⟩ | ⟨s, t, rfl, _⟩ | ⟨_, s, t, rfl, _⟩
      · exact h
      · simpa only [same, Double.equal_comm y x] using h
      all_goals cases hv
  | array s ih =>
      cases b with
      | array t =>
          simp only [same] at h ⊢
          simp only [WellFormed, wellFormedItems_iff] at ha hb
          exact sameItems_symm h fun a hmem b hother => ih a hmem (ha a hmem) (hb b hother)
      | _ => simp [same] at h
  | document s ih =>
      cases b with
      | document t =>
          simp only [same, Bool.and_eq_true, beq_iff_eq] at h ⊢
          simp only [WellFormed, wellFormedFields_iff] at ha hb
          refine ⟨h.1.symm, sameFields_symm ha.1 hb.1 h.1 h.2 ?_⟩
          intro field hfield v hv
          exact ih field hfield (ha.2 field hfield) (hb.2 _ hv)
      | _ => simp [same] at h
  | codeWithScope source s ih =>
      cases b with
      | codeWithScope other t =>
          simp only [same, Bool.and_eq_true, beq_iff_eq] at h ⊢
          simp only [WellFormed, wellFormedFields_iff] at ha hb
          obtain ⟨⟨hsource, hlen⟩, hfields⟩ := h
          refine ⟨⟨hsource.symm, hlen.symm⟩, sameFields_symm ha.1 hb.1 hlen hfields ?_⟩
          intro field hfield v hv
          exact ih field hfield (ha.2 field hfield) (hb.2 _ hv)
      | _ => simp [same] at h

theorem same_trans {a b c : Value} (hab : a.same b = true) (hbc : b.same c = true) :
    a.same c = true := by
  induction a using tree_induction generalizing b c with
  | leaf v hv =>
      rcases same_cases hab with rfl | ⟨x, y, rfl, rfl⟩ | ⟨s, t, rfl, _⟩ | ⟨s, t, rfl, _⟩ | ⟨_, s, t, rfl, _⟩
      · exact hbc
      · cases c with
        | double z => exact Double.equal_trans hab hbc
        | _ => simp [same] at hbc
      all_goals cases hv
  | array s ih =>
      cases b with
      | array t =>
          cases c with
          | array u =>
              simp only [same] at hab hbc ⊢
              exact sameItems_trans hab hbc fun a ha _ _ => ih a ha
          | _ => simp [same] at hbc
      | _ => simp [same] at hab
  | document s ih =>
      cases b with
      | document t =>
          cases c with
          | document u =>
              simp only [same, Bool.and_eq_true, beq_iff_eq] at hab hbc ⊢
              refine ⟨hab.1.trans hbc.1, sameFields_trans hab.2 hbc.2 ?_⟩
              exact fun field hfield _ _ => ih field hfield
          | _ => simp [same] at hbc
      | _ => simp [same] at hab
  | codeWithScope source s ih =>
      cases b with
      | codeWithScope other t =>
          cases c with
          | codeWithScope third u =>
              simp only [same, Bool.and_eq_true, beq_iff_eq] at hab hbc ⊢
              obtain ⟨⟨hsource, hlen⟩, hfields⟩ := hab
              obtain ⟨⟨hsource', hlen'⟩, hfields'⟩ := hbc
              refine ⟨⟨hsource.trans hsource', hlen.trans hlen'⟩, sameFields_trans hfields hfields' ?_⟩
              exact fun field hfield _ _ => ih field hfield
          | _ => simp [same] at hbc
      | _ => simp [same] at hab

end Value

namespace Document

variable {d e : Document}

theorem wellFormed_of_sublist (h : e.Sublist d) (hd : (Value.document d).WellFormed) :
    (Value.document e).WellFormed := by
  obtain ⟨hkeys, hfields⟩ := Value.wellFormed_document_iff.mp hd
  have hkept : OrderedMap.Distinct e := hkeys.sublist (h.map _)
  exact Value.wellFormed_document_iff.mpr ⟨hkept, fun field hfield => hfields field (h.subset hfield)⟩

theorem wellFormed_singleton (key : String) {v : Value} (hv : v.WellFormed) :
    (Value.document [(key, v)]).WellFormed := by
  refine Value.wellFormed_document_iff.mpr ⟨OrderedMap.distinct_singleton _, ?_⟩
  simpa using hv

theorem wellFormed_insert (hd : (Value.document d).WellFormed) (key : String) {v : Value}
    (hv : v.WellFormed) : (Value.document (d.insert key v)).WellFormed := by
  obtain ⟨hkeys, hfields⟩ := Value.wellFormed_document_iff.mp hd
  exact Value.wellFormed_document_iff.mpr
    ⟨hkeys.insert key v, (OrderedMap.forall_mem_insert_iff hfields).mpr hv⟩

end Document

end DocStore
