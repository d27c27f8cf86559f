import DocStore.Proofs.Filter.Prune
import DocStore.Proofs.Filter.Truth
import DocStore.Proofs.Query

namespace DocStore.Filter

-- Whether the whole has a query document, and that answers as all the filters do.
def StandsFor (whole : Filter) (fs : List Filter) : Prop :=
  ∃ q, whole.compile .strict = .ok q ∧
    ∀ d (verdict : Filter → Bool), (∀ f ∈ fs, f.Tells d (verdict f)) → Selector.holds d q = .ok (fs.all verdict)

variable {d q : Document} {whole f : Filter} {items fs rest : List Filter} {clauses : List Value}

theorem compileItems_concat (hitems : compileItems .strict items = .ok clauses) (hf : f.compile .strict = .ok q) :
    compileItems .strict (items ++ [f]) = .ok (clauses ++ [.document q]) := by
  induction items generalizing clauses with
  | nil =>
      cases hitems
      simp [compileItems, hf]
  | cons item rest ih =>
      obtain ⟨own, tail, hown, htail, rfl⟩ := compileItems_strict_cons hitems
      simp [compileItems, hown, ih htail]

-- The query document of a filter asks for its conjuncts.
theorem compile_conjuncts (hq : whole.compile .strict = .ok q) :
    ∃ clauses, compileItems .strict whole.conjuncts = .ok clauses ∧
      ∀ d, Selector.every d clauses = Selector.holds d q := by
  cases whole with
  | and items =>
      cases hitems : compileItems .strict items with
      | error e => simp [compile, hitems] at hq
      | ok clauses =>
          simp only [compile, hitems, Except.ok.injEq] at hq
          subst hq
          refine ⟨clauses, hitems, fun d => ?_⟩
          rw [Selector.holds_and (compileItems_documents hitems)]
  | _ => exact ⟨[.document q], by simp [conjuncts, compileItems, hq], fun _ => Selector.every_singleton q⟩

theorem standsFor_singleton (hq : f.compile .strict = .ok q) : f.StandsFor [f] := by
  refine ⟨q, hq, fun d verdict htells => ?_⟩
  rw [(htells f List.mem_cons_self).holds hq]
  simp

-- One more filter is one more to answer.
theorem StandsFor.conjoin (h : whole.StandsFor fs) (hf : f.compile .strict = .ok q) :
    (Filter.conjoin (some whole) f).StandsFor (fs ++ [f]) := by
  obtain ⟨kept, hkept, hanswers⟩ := h
  obtain ⟨clauses, hclauses, hevery⟩ := compile_conjuncts hkept
  have hall := compileItems_concat hclauses hf
  refine ⟨[("$and", .array (clauses ++ [.document q]))], by simp [Filter.conjoin, compile, hall], ?_⟩
  intro d verdict htells
  have hfirst : Selector.every d clauses = .ok (fs.all verdict) := by
    rw [hevery]
    exact hanswers d verdict fun own hown => htells own (List.mem_append_left [f] hown)
  have hlast : Selector.holds d q = .ok (verdict f) := (htells f (by simp)).holds hf
  rw [Selector.holds_and (compileItems_documents hall),
    Selector.every_append hfirst, Selector.every_singleton, hlast, List.all_append]
  cases fs.all verdict <;> simp

theorem StandsFor.conjoinAll (h : whole.StandsFor fs) (hrest : ∀ f ∈ rest, ∃ q, f.compile .strict = .ok q) :
    ∃ all, Filter.conjoinAll (some whole) rest = some all ∧ all.StandsFor (fs ++ rest) := by
  induction rest generalizing whole fs with
  | nil => exact ⟨whole, rfl, by simpa using h⟩
  | cons f rest ih =>
      obtain ⟨⟨q, hq⟩, htail⟩ := List.forall_mem_cons.mp hrest
      simpa [Filter.conjoinAll] using ih (h.conjoin hq) htail

-- The policy does not matter for what the strict one accepts.
theorem compile_of_strict (hq : f.compile .strict = .ok q) (policy : CompositePolicy) :
    f.compile policy = .ok q := by
  cases policy with
  | strict => exact hq
  | permissive => rw [compile_permissive, prune_eq_self hq, hq]

end DocStore.Filter
