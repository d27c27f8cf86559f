import DocStore.Proofs.Filter.Compile

namespace DocStore.Filter

mutual

-- The filter without the children of `and` and `or` that fail under the
-- permissive policy.
def prune : Filter → Filter
  | .field path condition => .field path condition
  | .elemMatch path items => .elemMatch path (pruneEach items)
  | .text search => .text search
  | .and items => .and (pruneFailing items)
  | .or items => .or (pruneFailing items)
  | .not items => .not (pruneEach items)
  | .invalid rejection => .invalid rejection

-- Every item, pruned.
def pruneEach : List Filter → List Filter
  | [] => []
  | item :: rest => prune item :: pruneEach rest

-- The items that do not fail, pruned.
def pruneFailing : List Filter → List Filter
  | [] => []
  | item :: rest =>
    match compile .permissive item with
    | .ok _ => prune item :: pruneFailing rest
    | .error _ => pruneFailing rest

end

variable {items : List Filter} {q : Document}

theorem pruneEach_eq_map (items : List Filter) : pruneEach items = items.map prune := by
  induction items with
  | nil => rfl
  | cons item rest ih => rw [pruneEach, ih, List.map_cons]

theorem pruneFailing_eq_map_filter (items : List Filter) :
    pruneFailing items = (items.filter fun item => (item.compile .permissive).isOk).map prune := by
  induction items with
  | nil => rfl
  | cons item rest ih =>
      cases hown : item.compile .permissive with
      | ok d => simp [pruneFailing, hown, ih, Except.isOk, Except.toBool]
      | error e => simp [pruneFailing, hown, ih, Except.isOk, Except.toBool]

-- The path decides how a negation is written, and pruning keeps it.
@[simp] theorem path?_prune (f : Filter) : f.prune.path? = f.path? := by
  cases f <;> rfl

theorem compileItems_pruneFailing
    (hitems : ∀ item ∈ items, item.compile .permissive = item.prune.compile .strict) :
    compileItems .permissive items = compileItems .strict (pruneFailing items) := by
  induction items with
  | nil => rfl
  | cons item rest ih =>
      obtain ⟨hitem, hrest⟩ := List.forall_mem_cons.mp hitems
      cases hown : item.compile .permissive with
      | error e => simp only [compileItems, pruneFailing, hown, ih hrest]
      | ok d =>
          have hstrict : item.prune.compile .strict = .ok d := hitem.symm.trans hown
          simp only [compileItems, pruneFailing, hown, hstrict, ih hrest]

theorem compileMerged_pruneEach (merged : Document)
    (hitems : ∀ item ∈ items, item.compile .permissive = item.prune.compile .strict) :
    compileMerged .permissive merged items = compileMerged .strict merged (pruneEach items) := by
  induction items generalizing merged with
  | nil => rfl
  | cons item rest ih =>
      obtain ⟨hitem, hrest⟩ := List.forall_mem_cons.mp hitems
      cases hown : item.compile .permissive with
      | error e => simp only [compileMerged, pruneEach, ← hitem, hown]
      | ok d => simp only [compileMerged, pruneEach, ← hitem, hown, ih _ hrest]

-- By induction on the tree: `and` and `or` lose the same children on both sides,
-- all other nodes keep theirs and fail with the first of them that does.
theorem compile_permissive (f : Filter) : f.compile .permissive = f.prune.compile .strict := by
  induction f with
  | field path condition => rfl
  | text search => rfl
  | invalid rejection => rfl
  | elemMatch path items ih => simp only [prune, compile, compileMerged_pruneEach [] ih]
  | and items ih => simp only [prune, compile, compileItems_pruneFailing ih]
  | or items ih => simp only [prune, compile, compileItems_pruneFailing ih]
  | not items ih =>
      rcases items with _ | ⟨child, _ | ⟨second, rest⟩⟩
      · rfl
      · simp only [prune, pruneEach, compile, ih child List.mem_cons_self, path?_prune]
      · simp only [prune, pruneEach, compile, pruneEach_eq_map, List.length_map]

theorem pruneEach_eq_self (hitems : ∀ item ∈ items, item.prune = item) : pruneEach items = items := by
  rw [pruneEach_eq_map, List.map_congr_left hitems, List.map_id']

theorem pruneFailing_eq_self {clauses : List Value}
    (hprune : ∀ item ∈ items, ∀ {q}, item.compile .strict = .ok q → item.prune = item)
    (hitems : compileItems .strict items = .ok clauses) : pruneFailing items = items := by
  have hself : ∀ item ∈ items, item.prune = item := by
    intro item hitem
    obtain ⟨q, hq⟩ := exists_compile_of_compileItems hitems item hitem
    exact hprune item hitem hq
  have hkept : ∀ item ∈ items, (item.compile .permissive).isOk = true := by
    intro item hitem
    obtain ⟨q, hq⟩ := exists_compile_of_compileItems hitems item hitem
    rw [compile_permissive, hself item hitem, hq]
    rfl
  rw [pruneFailing_eq_map_filter, List.filter_eq_self.mpr hkept, List.map_congr_left hself, List.map_id']

-- What the strict policy accepts has no child that fails.
theorem prune_eq_self {f : Filter} (hq : f.compile .strict = .ok q) : f.prune = f := by
  induction f generalizing q with
  | field path condition => rfl
  | text search => rfl
  | invalid rejection => rfl
  | elemMatch path items ih =>
      cases hitems : compileMerged .strict [] items with
      | error e => simp [compile, hitems] at hq
      | ok merged =>
          have hcompile := exists_compile_of_compileMerged hitems
          rw [prune, pruneEach_eq_self fun item hitem => (hcompile item hitem).elim fun _ => ih item hitem]
  | and items ih =>
      cases hitems : compileItems .strict items with
      | error e => simp [compile, hitems] at hq
      | ok clauses => rw [prune, pruneFailing_eq_self ih hitems]
  | or items ih =>
      cases hitems : compileItems .strict items with
      | error e => simp [compile, hitems] at hq
      | ok clauses => rw [prune, pruneFailing_eq_self ih hitems]
  | not items ih =>
      rcases items with _ | ⟨child, _ | ⟨second, rest⟩⟩
      · rfl
      · cases hchild : child.compile .strict with
        | error e => simp [compile, hchild] at hq
        | ok own => rw [prune, pruneEach, ih child List.mem_cons_self hchild, pruneEach]
      · cases hq

-- The permissive policy makes of a filter what the strict one makes of the pruned
-- filter, the failure included; and a filter that the strict policy accepts is
-- pruned already, so that both make the same of it.
theorem compile_permissive_eq_strict_prune (f : Filter) :
    f.compile .permissive = f.prune.compile .strict ∧
      ∀ q, f.compile .strict = .ok q → f.prune = f ∧ f.compile .permissive = .ok q := by
  refine ⟨compile_permissive f, fun q hq => ?_⟩
  have hself := prune_eq_self hq
  exact ⟨hself, by rw [compile_permissive, hself, hq]⟩

-- A filter whose `or` holds a negation that fails, and what is left of it.
def eitherOrUntagged : Filter :=
  .and [.field "a" (.equal (.int32 1)), .or [.field "b" (.equal (.int32 2)), .not [.field "tags" (.all (.int32 5))]]]

def either : Filter := .and [.field "a" (.equal (.int32 1)), .or [.field "b" (.equal (.int32 2))]]

theorem compile_permissive_eq_strict_prune_either :
    eitherOrUntagged.compile .permissive = either.compile .strict ∧
      either.prune = either ∧ ∃ q, either.compile .permissive = .ok q := by
  have hfirst := (compile_permissive_eq_strict_prune eitherOrUntagged).1
  obtain ⟨hself, hq⟩ := (compile_permissive_eq_strict_prune either).2 _ rfl
  exact ⟨hfirst, hself, _, hq⟩

end DocStore.Filter
