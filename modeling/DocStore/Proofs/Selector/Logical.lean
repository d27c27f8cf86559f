import DocStore.Selector

namespace DocStore.Selector

variable {d : Document} {b : Bool}

theorem not_isLogical {key : String} (hkey : Text.startsWithChar '$' key = false) :
    isLogical key = false := by
  have hdollar : ∀ op, Text.startsWithChar '$' op = true → key ≠ op := fun op hop h => by
    rw [h, hop] at hkey
    exact absurd hkey (by decide)
  have hand : key ≠ "$and" := hdollar "$and" rfl
  have hor : key ≠ "$or" := hdollar "$or" rfl
  have hnor : key ≠ "$nor" := hdollar "$nor" rfl
  simp [isLogical, hand, hor, hnor]

@[simp] theorem entries_singleton (key : String) (arg : Value) :
    entries d [(key, arg)] = entry d key arg := by
  simp only [entries]
  split
  · next h => rw [h]
  · rfl

@[simp] theorem operators_singleton (v : Option Value) (options op : String) (arg : Value) :
    operators v options [(op, arg)] = operator v options op arg := by
  simp only [operators]
  split
  · next h => rw [h]
  · rfl

theorem every_cons {q : Document} (rest : List Value) (hq : entries d q = .ok b) :
    every d (.document q :: rest) = if b then every d rest else .ok false := by
  simp only [every, hq]
  cases b <;> rfl

theorem every_append {first : List Value} (hfirst : every d first = .ok b) (last : List Value) :
    every d (first ++ last) = if b then every d last else .ok false := by
  induction first with
  | nil =>
      cases hfirst
      rfl
  | cons item rest ih =>
      cases item with
      | document own =>
          rw [List.cons_append]
          simp only [every] at hfirst ⊢
          cases hown : entries d own with
          | error e => simp [hown] at hfirst
          | ok passes =>
              cases passes with
              | true => exact ih (by simpa [hown] using hfirst)
              | false =>
                  simp only [hown, Except.ok.injEq] at hfirst
                  simp [← hfirst]
      | _ => exact ih hfirst

theorem every_singleton (q : Document) : every d [.document q] = holds d q := by
  simp only [every, holds]
  split
  · next h => rw [h]
  · rfl

theorem anyOf_cons {q : Document} (rest : List Value) (hq : entries d q = .ok b) :
    anyOf d (.document q :: rest) = if b then .ok true else anyOf d rest := by
  simp only [anyOf, hq]
  cases b <;> rfl

section Logical

variable {items : List Value} (hitems : items.all (·.document?.isSome) = true)

include hitems

theorem entry_and : entry d "$and" (.array items) = every d items := by
  simp [entry, hitems]

theorem entry_or : entry d "$or" (.array items) = anyOf d items := by
  simp [entry, hitems]

theorem entry_nor : entry d "$nor" (.array items) = negated (anyOf d items) := by
  simp [entry, hitems]

theorem holds_and : holds d [("$and", .array items)] = every d items := by
  rw [holds, entries_singleton, entry_and hitems]

theorem holds_or : holds d [("$or", .array items)] = anyOf d items := by
  rw [holds, entries_singleton, entry_or hitems]

end Logical

theorem entry_nor_singleton {q : Document} (hq : entries d q = .ok b) :
    entry d "$nor" (.array [.document q]) = .ok (!b) := by
  rw [entry_nor rfl, anyOf_cons [] hq]
  cases b <;> rfl

-- A path that does not begin with a dollar sign stands for the value at it.
theorem entry_of_path {key : String} (hkey : Text.startsWithChar '$' key = false) (arg : Value) :
    entry d key arg = condition (d.getPath? key) arg := by
  have hlogical : isLogical key = false := not_isLogical hkey
  have htext : key ≠ "$text" := fun h => by
    rw [h] at hkey
    exact absurd hkey (by decide)
  have hplain : ∀ arg, plainEntry d key arg = literal (d.getPath? key) arg := fun arg => by
    simp [plainEntry, hlogical, htext, hkey]
  cases arg with
  | array items =>
      have hkeys : key ≠ "$and" ∧ key ≠ "$or" ∧ key ≠ "$nor" := by
        simpa [isLogical, and_assoc] using hlogical
      simp [entry, hlogical, hkeys, hplain, condition]
  | document fields =>
      simp only [entry, hkey, hplain, condition, literal]
      split
      · contradiction
      · rfl
  | _ => simp only [entry, hplain, condition]

theorem holds_of_path {key : String} (hkey : Text.startsWithChar '$' key = false) (arg : Value) :
    holds d [(key, arg)] = condition (d.getPath? key) arg := by
  rw [holds, entries_singleton, entry_of_path hkey]

theorem operator_not (v : Option Value) (options : String) (arg : Value) :
    operator v options "$not" arg = negated (condition v arg) := by
  cases arg with
  | document fields =>
      simp only [operator, condition, if_true]
      split <;> rfl
  | _ => rfl

theorem condition_not (v : Option Value) (arg : Value) :
    condition v (.document [("$not", arg)]) = negated (condition v arg) := by
  have hop : Document.isOperator [("$not", arg)] = true := rfl
  simp only [condition, hop, if_true, operators_singleton, operator_not]

theorem condition_eq (v : Option Value) (arg : Value) :
    condition v (.document [("$eq", arg)]) = .ok (equals v arg) := by
  have hop : Document.isOperator [("$eq", arg)] = true := rfl
  simp only [condition, hop, if_true, operators_singleton]
  cases arg <;> rfl

end DocStore.Selector
