import DocStore.Proofs.Value.Equality

namespace DocStore.Value

mutual

-- Whether a number that is NaN stands in the value, at any depth.
def hasNaN : Value → Bool
  | .double x => x.isNaN
  | .array items => hasNaNItems items
  | .document fields => hasNaNFields fields
  | .codeWithScope _ scope => hasNaNFields scope
  | _ => false

def hasNaNItems : List Value → Bool
  | [] => false
  | v :: rest => hasNaN v || hasNaNItems rest

def hasNaNFields : List (String × Value) → Bool
  | [] => false
  | (_, v) :: rest => hasNaN v || hasNaNFields rest

end

theorem hasNaNItems_eq_false_iff {items : List Value} :
    hasNaNItems items = false ↔ ∀ item ∈ items, item.hasNaN = false := by
  induction items with
  | nil => simp [hasNaNItems]
  | cons v rest ih => simp [hasNaNItems, ih]

theorem hasNaNFields_eq_false_iff {fields : List (String × Value)} :
    hasNaNFields fields = false ↔ ∀ field ∈ fields, field.2.hasNaN = false := by
  induction fields with
  | nil => simp [hasNaNFields]
  | cons field rest ih => simp [hasNaNFields, ih]

theorem sameItems_self_iff {items : List Value} :
    sameItems items items = true ↔ ∀ item ∈ items, item.same item = true := by
  induction items with
  | nil => simp [sameItems]
  | cons v rest ih => simp [sameItems, ih]

-- Each key is looked up where it stands itself.
theorem sameFields_self_iff {fields : List (String × Value)} (h : OrderedMap.Distinct fields) :
    sameFields fields fields = true ↔ ∀ field ∈ fields, field.2.same field.2 = true := by
  rw [sameFields_iff]
  refine forall₂_congr fun field hfield => ?_
  rw [h.get?_of_mem hfield]
  simp

theorem same_self_iff {v : Value} (hv : v.WellFormed) : v.same v = true ↔ v.hasNaN = false := by
  induction v using tree_induction with
  | leaf v hleaf =>
      cases v with
      | double x => simp [same, hasNaN, Double.equal]
      | array | document | codeWithScope => cases hleaf
      | _ => simp [same, hasNaN]
  | array items ih =>
      rw [WellFormed, wellFormedItems_iff] at hv
      rw [same, hasNaN, sameItems_self_iff, hasNaNItems_eq_false_iff]
      exact forall₂_congr fun item hitem => ih item hitem (hv item hitem)
  | document fields ih =>
      rw [WellFormed, wellFormedFields_iff] at hv
      rw [same, hasNaN, beq_self_eq_true, Bool.true_and, sameFields_self_iff hv.1, hasNaNFields_eq_false_iff]
      exact forall₂_congr fun field hfield => ih field hfield (hv.2 field hfield)
  | codeWithScope source scope ih =>
      rw [WellFormed, wellFormedFields_iff] at hv
      rw [same, hasNaN, beq_self_eq_true, beq_self_eq_true, Bool.true_and, Bool.true_and,
        sameFields_self_iff hv.1, hasNaNFields_eq_false_iff]
      exact forall₂_congr fun field hfield => ih field hfield (hv.2 field hfield)

end DocStore.Value
