import DocStore.Proofs.Filter.Compile
import DocStore.Proofs.Selector.Logical

namespace DocStore.Filter

-- A range is two conditions, one for each bound.
def conditionLeaves (path : String) : Condition → List Filter
  | .within low high => [.field path (.atLeast low), .field path (.atMost high)]
  | condition => [.field path condition]

mutual

-- The parts that `and`, `or`, `not` and ranges put together.
def leaves : Filter → List Filter
  | .field path condition => conditionLeaves path condition
  | .and items => leavesOfItems items
  | .or items => leavesOfItems items
  | .not items => leavesOfItems items
  | .elemMatch path items => [.elemMatch path items]
  | .text search => [.text search]
  | .invalid rejection => [.invalid rejection]

def leavesOfItems : List Filter → List Filter
  | [] => []
  | item :: rest => leaves item ++ leavesOfItems rest

end

mutual

-- Whether the filter is true when each of its leaves is as true as `value` has it.
def truth (value : Filter → Bool) : Filter → Bool
  | .field path condition => (conditionLeaves path condition).all value
  | .and items => (truthOfItems value items).all id
  | .or items => (truthOfItems value items).any id
  | .not [child] => !truth value child
  | .not _ => false
  | .elemMatch path items => value (.elemMatch path items)
  | .text search => value (.text search)
  | .invalid rejection => value (.invalid rejection)

def truthOfItems (value : Filter → Bool) : List Filter → List Bool
  | [] => []
  | item :: rest => truth value item :: truthOfItems value rest

end

-- Whether the query document of the filter tells `b` of the document.
def Tells (f : Filter) (d : Document) (b : Bool) : Prop :=
  ∃ q, f.compile .strict = .ok q ∧ Selector.holds d q = .ok b

def PlainPaths (f : Filter) : Prop :=
  ∀ leaf ∈ f.leaves, ∀ path, leaf.path? = some path → Text.startsWithChar '$' path = false

theorem forall_leavesOfItems {holds : Filter → Prop} {items : List Filter} :
    (∀ leaf ∈ leavesOfItems items, holds leaf) ↔ ∀ item ∈ items, ∀ leaf ∈ item.leaves, holds leaf := by
  induction items with
  | nil => simp [leavesOfItems]
  | cons item rest ih => simp [leavesOfItems, or_imp, forall_and, ih]

variable {d q : Document} {value : Filter → Bool}

theorem Tells.holds {f : Filter} {b : Bool} (h : f.Tells d b) (hq : f.compile .strict = .ok q) :
    Selector.holds d q = .ok b := by
  obtain ⟨own, hown, hholds⟩ := h
  rw [hq] at hown
  cases hown
  exact hholds

-- The negation of a condition on a path negates what it tells of the value there,
-- whether it is left as it is or wrapped.
theorem holds_negation_of_path {path : String} (hpath : Text.startsWithChar '$' path = false) (v : Value) :
    Selector.holds d (negation (some path) [(path, v)]) =
      Selector.negated (Selector.condition (d.getPath? path) v) := by
  have hnot : ∀ arg, Selector.holds d (operatorOn path "$not" arg) =
      Selector.negated (Selector.condition (d.getPath? path) arg) := by
    intro arg
    rw [operatorOn, Selector.holds_of_path hpath,
      Selector.condition_not]
  have hwrapped : Selector.condition (d.getPath? path) v = .ok (Selector.equals (d.getPath? path) v) →
      Selector.holds d (operatorOn path "$not" (.document [("$eq", v)])) =
        Selector.negated (Selector.condition (d.getPath? path) v) := by
    intro h
    rw [hnot, Selector.condition_eq, h]
  cases v with
  | document fields => simpa [negation] using hnot (.document fields)
  | regex pattern options => simpa [negation] using hnot (.regex pattern options)
  | _ => simpa [negation] using hwrapped rfl

-- The negation of what is decided is decided the other way, in either form.
theorem holds_negation {path? : Option String} {b : Bool}
    (hpath : ∀ path, path? = some path → Text.startsWithChar '$' path = false)
    (hq : Selector.holds d q = .ok b) : Selector.holds d (negation path? q) = .ok (!b) := by
  have hwhole : Selector.holds d [("$nor", .array [.document q])] = .ok (!b) := by
    simp only [Selector.holds, Selector.entries_singleton] at hq ⊢
    exact Selector.entry_nor_singleton hq
  unfold negation
  split
  · next path key v =>
    have hplain := hpath path rfl
    by_cases hkey : key = path
    · subst hkey
      rw [Selector.holds_of_path hplain] at hq
      have hnegated : Selector.holds d (negation (some key) [(key, v)]) = .ok (!b) := by
        rw [holds_negation_of_path hplain, hq]
        rfl
      simpa [negation] using hnegated
    · simpa [hkey] using hwhole
  · exact hwhole

-- The query document of the filter tells what the leaves make of the filter.
def Agrees (f : Filter) (d : Document) (value : Filter → Bool) : Prop :=
  ∀ q, f.compile .strict = .ok q → Selector.holds d q = .ok (f.truth value)

theorem every_compileItems {items : List Filter} {clauses : List Value}
    (hitems : compileItems .strict items = .ok clauses) (hagree : ∀ item ∈ items, item.Agrees d value) :
    Selector.every d clauses = .ok ((truthOfItems value items).all id) := by
  induction items generalizing clauses with
  | nil =>
      cases hitems
      rfl
  | cons item rest ih =>
      obtain ⟨q, tail, hq, htail, rfl⟩ := compileItems_strict_cons hitems
      have hfirst := hagree item List.mem_cons_self q hq
      have hrest := ih htail fun other hother => hagree other (List.mem_cons_of_mem item hother)
      rw [Selector.every_cons tail hfirst, hrest, truthOfItems, List.all_cons]
      cases item.truth value <;> rfl

theorem anyOf_compileItems {items : List Filter} {clauses : List Value}
    (hitems : compileItems .strict items = .ok clauses) (hagree : ∀ item ∈ items, item.Agrees d value) :
    Selector.anyOf d clauses = .ok ((truthOfItems value items).any id) := by
  induction items generalizing clauses with
  | nil =>
      cases hitems
      rfl
  | cons item rest ih =>
      obtain ⟨q, tail, hq, htail, rfl⟩ := compileItems_strict_cons hitems
      have hfirst := hagree item List.mem_cons_self q hq
      have hrest := ih htail fun other hother => hagree other (List.mem_cons_of_mem item hother)
      rw [Selector.anyOf_cons tail hfirst, hrest, truthOfItems, List.any_cons]
      cases item.truth value <;> rfl

theorem PlainPaths.path {f : Filter} (hpaths : f.PlainPaths) {path : String}
    (hpath : f.path? = some path) : Text.startsWithChar '$' path = false := by
  cases f with
  | field own condition =>
      cases hpath
      cases condition with
      | within low high => exact hpaths (.field path (.atLeast low)) List.mem_cons_self path rfl
      | _ => exact hpaths _ List.mem_cons_self path rfl
  | elemMatch own items => exact hpaths (.elemMatch own items) List.mem_cons_self path hpath
  | _ => cases hpath

-- A document on which every leaf is decided is decided by the whole, and the
-- whole is as true as its leaves make it.
theorem holds_compile {f : Filter} (hpaths : f.PlainPaths)
    (hleaves : ∀ leaf ∈ f.leaves, leaf.Tells d (value leaf)) (hq : f.compile .strict = .ok q) :
    Selector.holds d q = .ok (f.truth value) := by
  induction f generalizing q with
  | field path condition =>
      cases condition with
      | within low high =>
          have hlow := (hleaves (.field path (.atLeast low)) (by simp [leaves, conditionLeaves])).holds rfl
          have hhigh := (hleaves (.field path (.atMost high)) (by simp [leaves, conditionLeaves])).holds rfl
          cases hq
          rw [Selector.holds, Selector.entries_singleton, Selector.entry_and rfl,
            Selector.every_cons _ hlow, Selector.every_cons _ hhigh]
          simp only [truth, conditionLeaves, List.all_cons, List.all_nil]
          cases value (.field path (.atLeast low)) <;> cases value (.field path (.atMost high)) <;> rfl
      | _ =>
          rw [(hleaves _ List.mem_cons_self).holds hq]
          simp [truth, conditionLeaves]
  | elemMatch path items => exact (hleaves (.elemMatch path items) List.mem_cons_self).holds hq
  | text search => exact (hleaves (.text search) List.mem_cons_self).holds hq
  | invalid rejection => exact (hleaves (.invalid rejection) List.mem_cons_self).holds hq
  | and items ih =>
      have hagree : ∀ item ∈ items, item.Agrees d value := fun item hitem _ =>
        ih item hitem (forall_leavesOfItems.mp hpaths item hitem)
          (forall_leavesOfItems.mp hleaves item hitem)
      cases hitems : compileItems .strict items with
      | error e => simp [compile, hitems] at hq
      | ok clauses =>
          simp only [compile, hitems, Except.ok.injEq] at hq
          subst hq
          rw [Selector.holds, Selector.entries_singleton, Selector.entry_and (compileItems_documents hitems),
            every_compileItems hitems hagree, truth]
  | or items ih =>
      have hagree : ∀ item ∈ items, item.Agrees d value := fun item hitem _ =>
        ih item hitem (forall_leavesOfItems.mp hpaths item hitem)
          (forall_leavesOfItems.mp hleaves item hitem)
      cases hitems : compileItems .strict items with
      | error e => simp [compile, hitems] at hq
      | ok clauses =>
          simp only [compile, hitems, Except.ok.injEq] at hq
          subst hq
          rw [Selector.holds, Selector.entries_singleton, Selector.entry_or (compileItems_documents hitems),
            anyOf_compileItems hitems hagree, truth]
  | not items ih =>
      rcases items with _ | ⟨child, _ | ⟨second, rest⟩⟩
      · simp [compile] at hq
      · have hchild := forall_leavesOfItems.mp hpaths child List.mem_cons_self
        cases hown : child.compile .strict with
        | error e => simp [compile, hown] at hq
        | ok own =>
            simp only [compile, hown, Except.ok.injEq] at hq
            subst hq
            have htells := ih child List.mem_cons_self hchild
              (forall_leavesOfItems.mp hleaves child List.mem_cons_self) hown
            rw [holds_negation (fun path => PlainPaths.path hchild) htells, truth]
      · simp [compile] at hq

-- Not (`a` is 2 and `n` is between 0 and 9, or not `a` differs from 2).
def unlessTwo : Filter :=
  .not [.or [
    .and [.field "a" (.equal (.int32 2)), .field "n" (.within (.int32 0) (.int32 9))],
    .not [.field "a" (.notEqual (.int32 2))]]]

theorem holds_compile_unlessTwo :
    ∃ q, unlessTwo.compile .strict = .ok q ∧
      Selector.holds [("a", .int32 1), ("n", .int32 5)] q =
        .ok (unlessTwo.truth (·.op? != some .eq)) ∧
      unlessTwo.truth (·.op? != some .eq) = true := by
  have hleaves : ∀ leaf ∈ unlessTwo.leaves, leaf = .field "a" (.equal (.int32 2)) ∨
      leaf = .field "n" (.atLeast (.int32 0)) ∨ leaf = .field "n" (.atMost (.int32 9)) ∨
      leaf = .field "a" (.notEqual (.int32 2)) := by
    simp [unlessTwo, leaves, leavesOfItems, conditionLeaves]
  refine ⟨_, rfl, holds_compile ?_ ?_ rfl, rfl⟩
  · intro leaf hleaf path hpath
    rcases hleaves leaf hleaf with rfl | rfl | rfl | rfl <;> cases hpath <;> rfl
  · intro leaf hleaf
    rcases hleaves leaf hleaf with rfl | rfl | rfl | rfl <;> exact ⟨_, rfl, rfl⟩

end DocStore.Filter
