import DocStore.Proofs.Value.Equality

namespace DocStore.Value

mutual

-- How many arrays, documents and scopes stand within one another.
def depth : Value → Nat
  | .array items => depthOfItems items + 1
  | .document fields => depthOfFields fields + 1
  | .codeWithScope _ scope => depthOfFields scope + 1
  | _ => 0

def depthOfItems : List Value → Nat
  | [] => 0
  | v :: rest => max (depth v) (depthOfItems rest)

def depthOfFields : List (String × Value) → Nat
  | [] => 0
  | (_, v) :: rest => max (depth v) (depthOfFields rest)

end

theorem depthOfItems_le_iff {items : List Value} {n : Nat} :
    depthOfItems items ≤ n ↔ ∀ item ∈ items, item.depth ≤ n := by
  induction items with
  | nil => simp [depthOfItems]
  | cons v rest ih => rw [depthOfItems, Nat.max_le, ih, List.forall_mem_cons]

theorem depthOfFields_le_iff {fields : List (String × Value)} {n : Nat} :
    depthOfFields fields ≤ n ↔ ∀ field ∈ fields, field.2.depth ≤ n := by
  induction fields with
  | nil => simp [depthOfFields]
  | cons field rest ih => rw [depthOfFields, Nat.max_le, ih, List.forall_mem_cons]

theorem depth_lt_of_mem_items {items : List Value} {item : Value} (h : item ∈ items) :
    item.depth < (Value.array items).depth :=
  Nat.lt_succ_of_le (depthOfItems_le_iff.mp (Nat.le_refl _) item h)

theorem depth_lt_of_mem_fields {fields : List (String × Value)} {field : String × Value}
    (h : field ∈ fields) : field.2.depth < (Value.document fields).depth :=
  Nat.lt_succ_of_le (depthOfFields_le_iff.mp (Nat.le_refl _) field h)

theorem exists_same_of_sameItems {s t : List Value} (h : sameItems s t = true) :
    ∀ a ∈ s, ∃ b ∈ t, a.same b = true := by
  induction s generalizing t with
  | nil => simp
  | cons a rest ih =>
      cases t with
      | nil => simp [sameItems] at h
      | cons b others =>
          simp only [sameItems, Bool.and_eq_true] at h
          refine List.forall_mem_cons.mpr ⟨⟨b, List.mem_cons_self, h.1⟩, fun c hc => ?_⟩
          obtain ⟨e, he, hsame⟩ := ih h.2 c hc
          exact ⟨e, List.mem_cons_of_mem b he, hsame⟩

theorem depthOfFields_le_of_sameFields {s t : List (String × Value)} (h : sameFields s t = true)
    (hstep : ∀ field ∈ s, ∀ b : Value, field.2.same b = true → field.2.depth ≤ b.depth) :
    depthOfFields s ≤ depthOfFields t := by
  rw [depthOfFields_le_iff]
  intro field hfield
  obtain ⟨b, hb, hsame⟩ := sameFields_iff.mp h field hfield
  have hbelow : b.depth ≤ depthOfFields t :=
    depthOfFields_le_iff.mp (Nat.le_refl _) _ (OrderedMap.mem_of_get? hb)
  exact Nat.le_trans (hstep field hfield b hsame) hbelow

theorem depth_le_of_same {a b : Value} (h : a.same b = true) : a.depth ≤ b.depth := by
  induction a using tree_induction generalizing b with
  | leaf v hv =>
      have hzero : v.depth = 0 := by
        cases v with
        | array _ => cases hv
        | document _ => cases hv
        | codeWithScope _ _ => cases hv
        | _ => rfl
      rw [hzero]
      exact Nat.zero_le _
  | array s ih =>
      cases b with
      | array t =>
          have hitems : depthOfItems s ≤ depthOfItems t := by
            rw [depthOfItems_le_iff]
            intro a ha
            obtain ⟨b, hb, hsame⟩ := exists_same_of_sameItems h a ha
            exact Nat.le_trans (ih a ha hsame) (depthOfItems_le_iff.mp (Nat.le_refl _) b hb)
          exact Nat.succ_le_succ hitems
      | _ => simp [same] at h
  | document s ih =>
      cases b with
      | document t =>
          simp only [same, Bool.and_eq_true] at h
          exact Nat.succ_le_succ
            (depthOfFields_le_of_sameFields h.2 fun field hfield b hsame => ih field hfield hsame)
      | _ => simp [same] at h
  | codeWithScope source s ih =>
      cases b with
      | codeWithScope other t =>
          simp only [same, Bool.and_eq_true] at h
          exact Nat.succ_le_succ
            (depthOfFields_le_of_sameFields h.2 fun field hfield b hsame => ih field hfield hsame)
      | _ => simp [same] at h

end DocStore.Value
