import DocStore.Proofs.Selector.Logical

namespace DocStore

@[simp] theorem Document.isOperator_cons (key : String) (arg : Value) (rest : Document) :
    Document.isOperator ((key, arg) :: rest) = Text.startsWithChar '$' key := by
  simp only [Document.isOperator, Text.startsWithChar]
  cases key.toList <;> rfl

namespace Selector

-- Whether an entry of a query document can be decided for the document.
def Decides (d : Document) (entry : String × Value) : Prop := ∃ b, Selector.entry d entry.1 entry.2 = .ok b

-- Whether an entry of a query document holds for the document.
def Passes (d : Document) (entry : String × Value) : Prop := Selector.entry d entry.1 entry.2 = .ok true

variable {d : Document} {q : Document}

-- The entries together are as true as all of them.
theorem entries_of_decides (h : ∀ entry ∈ q, Decides d entry) :
    ∃ b, entries d q = .ok b ∧ (b = true ↔ ∀ entry ∈ q, Passes d entry) := by
  induction q with
  | nil => exact ⟨true, rfl, by simp⟩
  | cons first rest ih =>
      obtain ⟨key, arg⟩ := first
      obtain ⟨⟨own, hown⟩, hrest⟩ := List.forall_mem_cons.mp h
      obtain ⟨others, hothers, hiff⟩ := ih hrest
      have hpasses : Passes d (key, arg) ↔ own = true := by simp [Passes, hown]
      rw [List.forall_mem_cons, hpasses, ← hiff]
      cases own with
      | true => exact ⟨others, by simp only [entries, hown, hothers], by simp⟩
      | false => exact ⟨false, by simp only [entries, hown], by simp⟩

-- The keys that stand for operators at the top are none in front of a value.
theorem operator_of_decides {key : String} {arg : Value} (hkey : Text.startsWithChar '$' key = true)
    (h : Decides d (key, arg)) (v : Option Value) (options : String) :
    operator v options key arg = .error (.unknownOperator key) := by
  obtain ⟨b, hb⟩ := h
  have hnamed : key = "$and" ∨ key = "$or" ∨ key = "$nor" ∨ key = "$text" := by
    refine Decidable.byContradiction fun hnot => ?_
    simp only [not_or] at hnot
    obtain ⟨hand, hor, hnor, htext⟩ := hnot
    have hlogical : isLogical key = false := by simp [isLogical, hand, hor, hnor]
    have hplain : ∀ arg, plainEntry d key arg = .error (.unknownTopLevelOperator key) := fun arg => by
      simp [plainEntry, hlogical, htext, hkey]
    cases arg <;> simp [entry, hlogical, hand, hor, hnor, hkey, hplain] at hb
  rcases hnamed with rfl | rfl | rfl | rfl <;> cases arg <;> rfl

theorem anyItem_of_ok {test : Value → Except StoreError Bool} {passes : Document → Bool}
    {elements : List Document} (h : ∀ element ∈ elements, test (.document element) = .ok (passes element)) :
    anyItem test (elements.map .document) = .ok (elements.any passes) := by
  induction elements with
  | nil => rfl
  | cons element rest ih =>
      obtain ⟨hfirst, hrest⟩ := List.forall_mem_cons.mp h
      rw [List.map_cons, anyItem, hfirst, List.any_cons]
      cases passes element with
      | true => rfl
      | false => exact ih hrest

section Elements

variable {path : String} {elements : List Document} (hpath : Text.startsWithChar '$' path = false)
  (hd : d.getPath? path = some (.array (elements.map .document)))

include hpath hd

-- A query document that does not begin with an operator is put to each element.
theorem holds_elemMatch_of_decided {passes : Document → Bool} (hq : q.isOperator = false)
    (h : ∀ element ∈ elements, entries element q = .ok (passes element)) :
    holds d [(path, .document [("$elemMatch", .document q)])] = .ok (elements.any passes) := by
  have hop : Document.isOperator [("$elemMatch", .document q)] = true := rfl
  rw [holds_of_path hpath, hd]
  simp only [condition, hop, if_true, operators_singleton]
  rw [operator, if_neg (by decide), if_pos rfl]
  simp only [hq, Bool.false_eq_true, if_false]
  exact anyItem_of_ok h

-- One that begins with an operator is taken for operators on the elements.
theorem holds_elemMatch_of_operator {key : String} {arg : Value} {rest : Document}
    (hkey : Text.startsWithChar '$' key = true)
    (h : ∀ element ∈ elements, Decides element (key, arg)) :
    holds d [(path, .document [("$elemMatch", .document ((key, arg) :: rest))])] =
      if elements.isEmpty then .ok false else .error (.unknownOperator key) := by
  have hop : Document.isOperator [("$elemMatch", .document ((key, arg) :: rest))] = true := rfl
  rw [holds_of_path hpath, hd]
  simp only [condition, hop, if_true, operators_singleton]
  rw [operator, if_neg (by decide), if_pos rfl]
  simp only [Document.isOperator_cons, hkey, if_true]
  cases elements with
  | nil => rfl
  | cons element others =>
      have herror := operator_of_decides hkey (h element List.mem_cons_self)
      simp only [List.map_cons, anyItem, operators, herror, List.isEmpty_cons, Bool.false_eq_true, if_false]

end Elements

end Selector

end DocStore
