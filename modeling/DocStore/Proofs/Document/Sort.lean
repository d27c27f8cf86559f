import DocStore.Document.Sort
import DocStore.Proofs.Value.Order

namespace DocStore.Document

def crossesAt (a b : Option Value) : Bool :=
  match a, b with
  | some x, some y => x.crosses y
  | _, _ => false

-- Whether comparing the two documents comes to hold a string against a symbol.
def crossesBy : Document → Document → Document → Bool
  | [], _, _ => false
  | (path, _) :: rest, a, b =>
    crossesAt (a.getPath? path) (b.getPath? path) ||
      (compareAt (a.getPath? path) (b.getPath? path) == .eq && crossesBy rest a b)

-- An order as a direction of sorting has it.
def directed (direction : Value) (o : Ordering) : Ordering :=
  if isDescending direction then o.swap else o

theorem compareAt_swap (x y : Option Value) : compareAt y x = (compareAt x y).swap := by
  cases x with
  | none => cases y <;> rfl
  | some v =>
      cases y with
      | none => rfl
      | some w => exact Value.order_swap v w

theorem crossesAt_comm (x y : Option Value) : crossesAt y x = crossesAt x y := by
  cases x with
  | none => cases y <;> rfl
  | some v =>
      cases y with
      | none => rfl
      | some w => exact Value.crosses_comm v w

theorem compareAt_follows {x y z : Option Value} (hxy : crossesAt x y = false)
    (hyz : crossesAt y z = false) : Follows (compareAt x y) (compareAt y z) (compareAt x z) := by
  cases y with
  | none =>
      cases x with
      | some v => exact fun hgt _ => absurd rfl hgt
      | none => cases z <;> exact fun _ _ => rfl
  | some w =>
      cases z with
      | none => exact fun _ hgt => absurd rfl hgt
      | some u =>
          cases x with
          | none => exact fun _ _ => rfl
          | some v => exact Value.order_follows hxy hyz

theorem directed_swap (direction : Value) (o : Ordering) :
    directed direction o.swap = (directed direction o).swap := by
  unfold directed
  split <;> rfl

-- A comparison that is turned round takes its steps in the opposite order.
theorem directed_follows (direction : Value) {x y z : Option Value} (hxy : crossesAt x y = false)
    (hyz : crossesAt y z = false) :
    Follows (directed direction (compareAt x y)) (directed direction (compareAt y z))
      (directed direction (compareAt x z)) := by
  unfold directed
  split
  · rw [← compareAt_swap, ← compareAt_swap, ← compareAt_swap]
    rw [← crossesAt_comm] at hxy hyz
    exact (compareAt_follows hyz hxy).comm
  · exact compareAt_follows hxy hyz

theorem compareBy_cons (path : String) (direction : Value) (rest a b : Document) :
    compareBy ((path, direction) :: rest) a b =
      (directed direction (compareAt (a.getPath? path) (b.getPath? path))).then (compareBy rest a b) := by
  rw [compareBy]
  unfold directed
  cases compareAt (a.getPath? path) (b.getPath? path) <;> cases isDescending direction <;> rfl

theorem directed_eq_iff (direction : Value) (o : Ordering) : directed direction o = .eq ↔ o = .eq := by
  unfold directed
  split <;> cases o <;> decide

theorem compareBy_swap (sort a b : Document) : compareBy sort b a = (compareBy sort a b).swap := by
  induction sort with
  | nil => rfl
  | cons entry rest ih =>
      obtain ⟨path, direction⟩ := entry
      rw [compareBy_cons, compareBy_cons, Ordering.swap_then, compareAt_swap, directed_swap, ih]

theorem compareBy_follows {sort a b c : Document} (hab : crossesBy sort a b = false)
    (hbc : crossesBy sort b c = false) :
    Follows (compareBy sort a b) (compareBy sort b c) (compareBy sort a c) := by
  induction sort with
  | nil => exact fun _ _ => rfl
  | cons entry rest ih =>
      obtain ⟨path, direction⟩ := entry
      simp only [crossesBy, Bool.or_eq_false_iff, Bool.and_eq_false_imp, beq_iff_eq] at hab hbc
      rw [compareBy_cons, compareBy_cons, compareBy_cons]
      exact (directed_follows direction hab.1 hbc.1).lex fun heq heq' =>
        ih (hab.2 ((directed_eq_iff _ _).mp heq)) (hbc.2 ((directed_eq_iff _ _).mp heq'))

-- Values are compared by an order that turns round with its sides, and so are
-- documents under every sort. Three values, or three documents, are in order if
-- neither step holds a string against a symbol; between a string and a symbol
-- there is no order, since a symbol stands level with strings that differ.
theorem order_compareBy_preorder (u v w : Value) (sort a b c : Document) :
    (v.order u = (u.order v).swap ∧
      (u.crosses v = false → v.crosses w = false → u.order v ≠ .gt → v.order w ≠ .gt → u.order w ≠ .gt)) ∧
    (compareBy sort b a = (compareBy sort a b).swap ∧
      (crossesBy sort a b = false → crossesBy sort b c = false → compareBy sort a b ≠ .gt →
        compareBy sort b c ≠ .gt → compareBy sort a c ≠ .gt)) ∧
    ∀ s t : String, ∃ r : String, (Value.string r).order (.symbol t) ≠ .gt ∧
      (Value.symbol t).order (.string s) ≠ .gt ∧ (Value.string r).order (.string s) = .gt :=
  ⟨⟨Value.order_swap u v, fun huv hvw => (Value.order_follows huv hvw).ne_gt⟩,
    ⟨compareBy_swap sort a b, fun hab hbc => (compareBy_follows hab hbc).ne_gt⟩, Value.symbol_between_strings⟩

-- Arrays of a number and a text or symbol.
def numbered (n label : Value) : Value := .array [n, label]

-- Tasks, sorted by their group and within it from the latest to the earliest.
def task (group due : Value) : Document := [("group", group), ("due", due)]

def byGroupThenLatest : Document := [("group", .int32 1), ("due", .int32 (-1))]

theorem order_compareBy_preorder_tasks :
    ((numbered (.int32 1) (.string "a")).crosses (numbered (.int64 1) (.string "b")) = false ∧
      (numbered (.int64 1) (.string "b")).crosses (numbered (.int32 2) (.symbol "a")) = false ∧
      (numbered (.int32 1) (.string "a")).order (numbered (.int64 1) (.string "b")) ≠ .gt ∧
      (numbered (.int64 1) (.string "b")).order (numbered (.int32 2) (.symbol "a")) ≠ .gt ∧
      (numbered (.int32 1) (.string "a")).order (numbered (.int32 2) (.symbol "a")) ≠ .gt) ∧
    crossesBy byGroupThenLatest (task (.string "a") (.date 5)) (task (.string "a") (.date 3)) = false ∧
      crossesBy byGroupThenLatest (task (.string "a") (.date 3)) (task (.string "b") (.symbol "x")) = false ∧
      compareBy byGroupThenLatest (task (.string "a") (.date 5)) (task (.string "a") (.date 3)) ≠ .gt ∧
      compareBy byGroupThenLatest (task (.string "a") (.date 3)) (task (.string "b") (.symbol "x")) ≠ .gt ∧
      compareBy byGroupThenLatest (task (.string "a") (.date 5)) (task (.string "b") (.symbol "x")) ≠ .gt := by
  obtain ⟨⟨_, hvalues⟩, ⟨_, hdocs⟩, _⟩ := order_compareBy_preorder (numbered (.int32 1) (.string "a"))
    (numbered (.int64 1) (.string "b")) (numbered (.int32 2) (.symbol "a")) byGroupThenLatest
    (task (.string "a") (.date 5)) (task (.string "a") (.date 3)) (task (.string "b") (.symbol "x"))
  refine ⟨⟨by decide, by decide, by decide, by decide, ?_⟩, by decide, by decide, by decide, by decide, ?_⟩
  · exact hvalues (by decide) (by decide) (by decide) (by decide)
  · exact hdocs (by decide) (by decide) (by decide) (by decide)

-- A symbol stands level with two strings of which one comes after the other.
theorem symbol_breaks_order :
    (¬ ∀ a b c : Value, a.order b ≠ .gt → b.order c ≠ .gt → a.order c ≠ .gt) ∧
    ¬ ∀ sort a b c : Document, compareBy sort a b ≠ .gt → compareBy sort b c ≠ .gt →
      compareBy sort a c ≠ .gt := by
  constructor
  · intro h
    exact h (.string "b") (.symbol "x") (.string "a") (by decide) (by decide) (by decide)
  · intro h
    exact h [("v", .int32 1)] [("v", .string "b")] [("v", .symbol "x")] [("v", .string "a")]
      (by decide) (by decide) (by decide)

end DocStore.Document
