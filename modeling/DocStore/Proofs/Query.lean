import DocStore.Proofs.Outcome
import DocStore.Query

namespace DocStore

namespace Filter

-- What a filter brings to a conjunction: the items of one, or itself.
def conjuncts : Filter → List Filter
  | .and items => items
  | f => [f]

-- A filter beside what is kept so far.
def conjoin : Option Filter → Filter → Filter
  | none, f => f
  | some kept, f => .and (kept.conjuncts ++ [f])

-- Several filters beside what is kept so far.
def conjoinAll (kept : Option Filter) (fs : List Filter) : Option Filter :=
  fs.foldl (fun kept f => some (conjoin kept f)) kept

theorem conjoinAll_eq_none_iff {kept : Option Filter} {fs : List Filter} :
    conjoinAll kept fs = none ↔ kept = none ∧ fs = [] := by
  induction fs generalizing kept with
  | nil => simp [conjoinAll]
  | cons f rest ih =>
      have hstep : conjoinAll kept (f :: rest) = conjoinAll (some (conjoin kept f)) rest := rfl
      rw [hstep, ih]
      simp

end Filter

namespace Clause

-- The changes that a clause asks for.
def asks? : Clause → Option CommandKind
  | .command _ => some .command
  | .insert => some .insert
  | .update _ => some .update
  | .delete => some .delete
  | .save => some .save
  | _ => none

def filter? : Clause → Option Filter
  | .filter f => some f
  | _ => none

end Clause

namespace GroupedQuery

-- What a clause adds to the query, the changes that it asks for left aside.
def absorb (g : GroupedQuery) : Clause → GroupedQuery
  | .table name => { g with table := name }
  | .select fields => { g with select := g.select ++ fields }
  | .filter f => { g with filter := some (Filter.conjoin g.filter f) }
  | .order keys => { g with order := g.order ++ keys }
  | .skip n => { g with skip := some n }
  | .take n => { g with take := some n }
  | .aggregate items => { g with aggregate := some (g.aggregate.getD [] ++ items) }
  | .groupBy keys => { g with groupBy := g.groupBy ++ keys }
  | .command c => { g with command := some c }
  | .update fields => { g with updateFields := g.updateFields ++ fields }
  | .insert => g
  | .delete => g
  | .save => g

def absorbAll (g : GroupedQuery) (clauses : List Clause) : GroupedQuery := clauses.foldl absorb g

variable {g after : GroupedQuery} {clauses : List Clause}

theorem addFilter_eq (g : GroupedQuery) (f : Filter) :
    g.addFilter f = { g with filter := some (Filter.conjoin g.filter f) } := by
  cases hkept : g.filter with
  | none => simp [addFilter, hkept, Filter.conjoin]
  | some kept => cases kept <;> simp [addFilter, hkept, Filter.conjoin, Filter.conjuncts]

theorem add_eq (g : GroupedQuery) (clause : Clause) :
    g.add clause = match clause.asks? with
      | some kind => (g.absorb clause).setKind kind
      | none => .ok (g.absorb clause) := by
  cases clause with
  | filter f => exact congrArg Except.ok (addFilter_eq g f)
  | _ => rfl

theorem setKind_of_none {kind : CommandKind} (h : g.kind = none) :
    g.setKind kind = .ok { g with kind := some kind } := by
  rw [setKind, h]

theorem setKind_of_some {own kind : CommandKind} (h : g.kind = some own) :
    g.setKind kind = if own = kind then .ok g else .error (.dispatch (.mixedCommands own kind)) := by
  rw [setKind, h]

@[simp] theorem absorb_kind (g : GroupedQuery) (clause : Clause) : (g.absorb clause).kind = g.kind := by
  cases clause <;> rfl

theorem absorbAll_with_kind (g : GroupedQuery) (kind : Option CommandKind) (clauses : List Clause) :
    absorbAll { g with kind := kind } clauses = { g.absorbAll clauses with kind := kind } := by
  induction clauses generalizing g with
  | nil => rfl
  | cons clause rest ih =>
      have hstep : absorb { g with kind := kind } clause = { g.absorb clause with kind := kind } := by
        cases clause <;> rfl
      simp only [absorbAll, List.foldl_cons, hstep] at ih ⊢
      exact ih _

-- Clauses are accepted if all the changes that they ask for are of one kind.
theorem addAll_eq_ok_iff :
    g.addAll clauses = .ok after ↔
      (∀ kind ∈ clauses.filterMap Clause.asks?, g.kind.or (clauses.filterMap Clause.asks?).head? = some kind) ∧
        after = { g.absorbAll clauses with kind := g.kind.or (clauses.filterMap Clause.asks?).head? } := by
  induction clauses generalizing g with
  | nil => simp [addAll, absorbAll, eq_comm]
  | cons clause rest ih =>
      rw [addAll, add_eq]
      cases hasks : clause.asks? with
      | none =>
          rw [List.filterMap_cons_none hasks, ih, absorb_kind]
          rfl
      | some kind =>
          rw [List.filterMap_cons_some hasks]
          dsimp only
          cases hkind : g.kind with
          | none =>
              rw [setKind_of_none ((g.absorb_kind clause).trans hkind), ih, absorbAll_with_kind]
              simp [absorbAll]
          | some own =>
              by_cases hsame : own = kind
              · subst hsame
                rw [setKind_of_some ((g.absorb_kind clause).trans hkind), if_pos rfl, ih, absorb_kind, hkind]
                simp [absorbAll]
              · rw [setKind_of_some ((g.absorb_kind clause).trans hkind), if_neg hsame]
                simp [hsame]

theorem checkLimits_eq (h : g.checkLimits = .ok after) : after = g := by
  unfold checkLimits at h
  split at h
  · cases h
  · split at h
    · cases h
    · cases h
      rfl

-- No filter is lost, and none comes from another clause.
theorem absorbAll_filter (g : GroupedQuery) (clauses : List Clause) :
    (g.absorbAll clauses).filter = Filter.conjoinAll g.filter (clauses.filterMap Clause.filter?) := by
  induction clauses generalizing g with
  | nil => rfl
  | cons clause rest ih =>
      rw [absorbAll, List.foldl_cons]
      refine (ih (g.absorb clause)).trans ?_
      cases clause <;> rfl

theorem ofClauses_filter (h : ofClauses clauses = .ok g) :
    g.filter = Filter.conjoinAll none (clauses.filterMap Clause.filter?) := by
  obtain ⟨all, hadd, hlimits⟩ := Except.bind_eq_ok_iff.mp h
  rw [checkLimits_eq hlimits, (addAll_eq_ok_iff.mp hadd).2]
  exact absorbAll_filter {} clauses

theorem ofClauses_filter_eq_none_iff (h : ofClauses clauses = .ok g) :
    g.filter = none ↔ ∀ f, .filter f ∉ clauses := by
  rw [ofClauses_filter h, Filter.conjoinAll_eq_none_iff, List.filterMap_eq_nil_iff]
  constructor
  · rintro ⟨_, hnone⟩ f hf
    cases hnone (.filter f) hf
  · refine fun hnone => ⟨rfl, fun clause hclause => ?_⟩
    cases clause with
    | filter f => exact absurd hclause (hnone f)
    | _ => rfl

end GroupedQuery

end DocStore
