import DocStore.Filter.Compile
import DocStore.Proofs.Outcome

namespace DocStore.Filter

-- Composites hold lists of filters, so a proof by induction has its hypothesis
-- for every item of the list.
@[elab_as_elim, induction_eliminator]
theorem tree_induction {motive : Filter → Prop}
    (field : ∀ path condition, motive (.field path condition))
    (elemMatch : ∀ path items, (∀ item ∈ items, motive item) → motive (.elemMatch path items))
    (text : ∀ search, motive (.text search))
    (and : ∀ items, (∀ item ∈ items, motive item) → motive (.and items))
    (or : ∀ items, (∀ item ∈ items, motive item) → motive (.or items))
    (not : ∀ items, (∀ item ∈ items, motive item) → motive (.not items))
    (invalid : ∀ rejection, motive (.invalid rejection)) (f : Filter) : motive f := by
  refine @Filter.rec motive (fun items => ∀ item ∈ items, motive item)
    field elemMatch text and or not invalid ?_ ?_ f
  · exact fun _ h => absurd h List.not_mem_nil
  · intro item rest hitem hrest other hother
    cases List.mem_cons.mp hother with
    | inl h => exact h ▸ hitem
    | inr h => exact hrest other h

variable {policy : CompositePolicy} {items : List Filter} {clauses : List Value}

def conditionKey (path : String) : Condition → String
  | .within _ _ => "$and"
  | .contains (_ :: _ :: _) => "$or"
  | _ => path

-- The key of the one entry that a filter becomes.
def key : Filter → String
  | .field path condition => conditionKey path condition
  | .elemMatch path _ => path
  | .text _ => "$text"
  | .and _ => "$and"
  | .or _ => "$or"
  -- A negation stays with the field where there is one.
  | .not [.field path condition] => if conditionKey path condition = path then path else "$nor"
  | .not [.elemMatch path _] => path
  | .not _ => "$nor"
  | .invalid _ => ""

theorem containsOn_key {path : String} {v : Value} {q : Document} (hq : containsOn path v = .ok q) :
    ∃ arg, q = [(path, arg)] := by
  obtain ⟨text, _, hpure⟩ := Except.bind_eq_ok_iff.mp hq
  cases hpure
  exact ⟨_, rfl⟩

theorem compileCondition_key {path : String} {condition : Condition} {q : Document}
    (hq : compileCondition path condition = .ok q) : ∃ arg, q = [(conditionKey path condition, arg)] := by
  cases condition with
  | contains needles =>
      rcases needles with _ | ⟨v, _ | ⟨second, rest⟩⟩
      · cases hq
      · exact containsOn_key hq
      · obtain ⟨clauses, _, hpure⟩ := Except.bind_eq_ok_iff.mp hq
        cases hpure
        exact ⟨_, rfl⟩
  | startsWith v =>
      obtain ⟨text, _, hpure⟩ := Except.bind_eq_ok_iff.mp hq
      cases hpure
      exact ⟨_, rfl⟩
  | endsWith v =>
      obtain ⟨text, _, hpure⟩ := Except.bind_eq_ok_iff.mp hq
      cases hpure
      exact ⟨_, rfl⟩
  | all v =>
      simp only [compileCondition] at hq
      split at hq
      · cases hq
      · split at hq
        · cases hq
          exact ⟨_, rfl⟩
        · cases hq
  | _ =>
      cases hq
      exact ⟨_, rfl⟩

theorem negation_key (path own : String) (arg : Value) :
    ∃ other, negation (some path) [(own, arg)] = [(if own = path then path else "$nor", other)] := by
  by_cases h : own = path
  · cases arg <;> simp [negation, operatorOn, h]
  · simp [negation, h]

theorem compile_elemMatch_key {path : String} {q : Document}
    (hq : (Filter.elemMatch path items).compile policy = .ok q) : ∃ arg, q = [(path, arg)] := by
  simp only [compile] at hq
  split at hq
  · cases hq
    exact ⟨_, rfl⟩
  · cases hq

theorem compile_not_key {child : Filter} {q : Document} (hq : (Filter.not [child]).compile policy = .ok q) :
    ∃ arg, q = [((Filter.not [child]).key, arg)] := by
  cases hchild : child.compile policy with
  | error e => simp [compile, hchild] at hq
  | ok own =>
      simp only [compile, hchild, Except.ok.injEq] at hq
      subst hq
      cases child with
      | field path condition =>
          obtain ⟨arg, rfl⟩ := compileCondition_key hchild
          exact negation_key path _ arg
      | elemMatch path items =>
          obtain ⟨arg, rfl⟩ := compile_elemMatch_key hchild
          obtain ⟨other, hother⟩ := negation_key path path arg
          rw [if_pos rfl] at hother
          exact ⟨other, hother⟩
      | _ => exact ⟨_, rfl⟩

-- A query document has one entry, whatever the filter.
theorem compile_key {f : Filter} {q : Document} (hq : f.compile policy = .ok q) :
    ∃ arg, q = [(f.key, arg)] := by
  cases f with
  | field path condition => exact compileCondition_key hq
  | elemMatch path items => exact compile_elemMatch_key hq
  | text search =>
      cases hq
      exact ⟨_, rfl⟩
  | invalid rejection => cases hq
  | not items =>
      rcases items with _ | ⟨child, _ | ⟨second, rest⟩⟩
      · cases hq
      · exact compile_not_key hq
      · cases hq
  | _ =>
      simp only [compile] at hq
      split at hq
      · cases hq
        exact ⟨_, rfl⟩
      · cases hq

-- The first child becomes the first clause, or fails and is dropped.
theorem compileItems_cons {item : Filter} {rest : List Filter}
    (hitems : compileItems policy (item :: rest) = .ok clauses) :
    (∃ q tail, item.compile policy = .ok q ∧ compileItems policy rest = .ok tail ∧
      clauses = .document q :: tail) ∨
    (policy = .permissive ∧ (∃ e, item.compile policy = .error e) ∧
      compileItems policy rest = .ok clauses) := by
  rw [compileItems] at hitems
  cases hitem : item.compile policy with
  | error e =>
      rw [hitem] at hitems
      cases policy with
      | strict => cases hitems
      | permissive => exact Or.inr ⟨rfl, ⟨e, rfl⟩, hitems⟩
  | ok q =>
      rw [hitem] at hitems
      cases htail : compileItems policy rest with
      | error e => simp [htail] at hitems
      | ok tail =>
          simp only [htail, Except.ok.injEq] at hitems
          exact Or.inl ⟨q, tail, rfl, rfl, hitems.symm⟩

-- The strict policy keeps one clause for each item.
theorem compileItems_strict_cons {item : Filter} {rest : List Filter}
    (hitems : compileItems .strict (item :: rest) = .ok clauses) :
    ∃ q tail, item.compile .strict = .ok q ∧ compileItems .strict rest = .ok tail ∧
      clauses = .document q :: tail := by
  rcases compileItems_cons hitems with h | ⟨hpolicy, _⟩
  · exact h
  · cases hpolicy

theorem exists_compile_of_compileItems (hitems : compileItems .strict items = .ok clauses) :
    ∀ item ∈ items, ∃ q, item.compile .strict = .ok q := by
  induction items generalizing clauses with
  | nil => simp
  | cons item rest ih =>
      obtain ⟨q, tail, hq, htail, _⟩ := compileItems_strict_cons hitems
      exact List.forall_mem_cons.mpr ⟨⟨q, hq⟩, ih htail⟩

-- An element match takes in one item after the other, and fails with the first that does.
theorem compileMerged_cons {merged d : Document} {item : Filter} {rest : List Filter}
    (hitems : compileMerged policy merged (item :: rest) = .ok d) :
    ∃ q, item.compile policy = .ok q ∧ compileMerged policy (insertAll merged q) rest = .ok d := by
  rw [compileMerged] at hitems
  cases hitem : item.compile policy with
  | error e => simp [hitem] at hitems
  | ok q => exact ⟨q, rfl, by simpa [hitem] using hitems⟩

theorem exists_compile_of_compileMerged {merged d : Document}
    (hitems : compileMerged policy merged items = .ok d) :
    ∀ item ∈ items, ∃ q, item.compile policy = .ok q := by
  induction items generalizing merged with
  | nil => simp
  | cons item rest ih =>
      obtain ⟨q, hq, hrest⟩ := compileMerged_cons hitems
      exact List.forall_mem_cons.mpr ⟨⟨q, hq⟩, ih hrest⟩

theorem compileItems_documents (hitems : compileItems policy items = .ok clauses) :
    clauses.all (·.document?.isSome) = true := by
  induction items generalizing clauses with
  | nil =>
      cases hitems
      rfl
  | cons item rest ih =>
      rcases compileItems_cons hitems with ⟨q, tail, _, htail, rfl⟩ | ⟨_, _, hrest⟩
      · rw [List.all_cons, ih htail]
        rfl
      · exact ih hrest

end DocStore.Filter
