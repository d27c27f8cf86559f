import DocStore.Proofs.Value.Order

namespace DocStore.Value

mutual

-- Whether a symbol stands in the value, at any depth.
def hasSymbol : Value → Bool
  | .symbol _ => true
  | .array items => hasSymbolItems items
  | .document fields => hasSymbolFields fields
  | .codeWithScope _ scope => hasSymbolFields scope
  | _ => false

def hasSymbolItems : List Value → Bool
  | [] => false
  | v :: rest => hasSymbol v || hasSymbolItems rest

def hasSymbolFields : List (String × Value) → Bool
  | [] => false
  | (_, v) :: rest => hasSymbol v || hasSymbolFields rest

end

theorem crossesItems_of_no_symbol {items others : List Value}
    (h : ∀ a ∈ items, ∀ b : Value, a.hasSymbol = false → b.hasSymbol = false → a.crosses b = false)
    (hitems : hasSymbolItems items = false) (hothers : hasSymbolItems others = false) :
    crossesItems items others = false := by
  induction items generalizing others with
  | nil => simp [crossesItems]
  | cons a as ih =>
      cases others with
      | nil => rfl
      | cons b bs =>
          simp only [hasSymbolItems, Bool.or_eq_false_iff] at hitems hothers
          obtain ⟨ha, has⟩ := List.forall_mem_cons.mp h
          have hfirst : a.crosses b = false := ha b hitems.1 hothers.1
          have hrest : crossesItems as bs = false := ih has hitems.2 hothers.2
          simp [crossesItems, hfirst, hrest]

theorem crosses_of_no_symbol {a b : Value} (ha : a.hasSymbol = false) (hb : b.hasSymbol = false) :
    a.crosses b = false := by
  induction a using array_induction generalizing b with
  | other v harray =>
      unfold crosses
      split
      · cases hb
      · cases ha
      · cases harray
      · rfl
  | array items ih =>
      cases b with
      | array others => exact crossesItems_of_no_symbol (fun a hmem _ => ih a hmem) ha hb
      | _ => rfl

end DocStore.Value
