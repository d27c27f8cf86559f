import DocStore.Cursor.Open
import DocStore.Proofs.Filter.Compile
import DocStore.Proofs.Client
import DocStore.Proofs.Outcome
import DocStore.Proofs.Store.View

namespace DocStore

-- Whether a failure is one that a fetch reports.
def DbError.isFetch : DbError → Bool
  | fetch _ => true
  | _ => false

-- Whether what is answered, if it is, has a property, and no failure is one of reading.
def Opens {α : Type} (P : α → Prop) (r : Except DbError α) : Prop :=
  (∀ a, r = .ok a → P a) ∧ ∀ e, r = .error e → e.isFetch = false

section

variable {α β : Type} {P : α → Prop} {Q : β → Prop}

theorem opens_ok {a : α} (h : P a) : Opens P (.ok a) :=
  ⟨fun _ ha => Except.ok.inj ha ▸ h, nofun⟩

theorem opens_error {e : DbError} (h : e.isFetch = false) : Opens P (.error e) :=
  ⟨nofun, fun _ he => Except.error.inj he ▸ h⟩

theorem Opens.bind {r : Except DbError α} {f : α → Except DbError β} (hr : Opens P r)
    (hf : ∀ a, P a → Opens Q (f a)) : Opens Q (r >>= f) := by
  cases r with
  | ok a => exact hf a (hr.1 a rfl)
  | error e => exact opens_error (hr.2 e rfl)

theorem Opens.map {r : Except DbError α} {f : α → β} (hr : Opens P r) (hf : ∀ a, P a → Q (f a)) :
    Opens Q (r.map f) := by
  cases r with
  | ok a => exact opens_ok (hf a (hr.1 a rfl))
  | error e => exact opens_error (hr.2 e rfl)

end

-- Whether no failure is one of reading.
abbrev NeverFetch {α : Type} (r : Except DbError α) : Prop := Opens (fun _ => True) r

namespace Filter

section

variable {policy : CompositePolicy} {items : List Filter}

end

end Filter

namespace GroupedQuery

theorem neverFetch_groupStage (items : List AggregateItem) (keys : List String) :
    NeverFetch (groupStage items keys) := by
  unfold groupStage
  generalize ([("_id", groupKey keys)] : Document) = stage
  induction items generalizing stage with
  | nil => exact opens_ok trivial
  | cons item rest ih =>
      have haccumulator : NeverFetch (accumulator item) := by
        unfold accumulator
        split
        · exact opens_ok trivial
        · split
          · exact opens_error rfl
          · exact opens_ok trivial
      unfold addAccumulators
      split
      · exact ih _
      · next e he => exact opens_error (haccumulator.2 e he)

theorem neverFetch_stagesOf (vs : List Value) : NeverFetch (stagesOf vs) := by
  induction vs with
  | nil => exact opens_ok trivial
  | cons v rest ih =>
      cases v with
      | document d => exact ih.map fun _ _ => trivial
      | _ => exact opens_error rfl

theorem neverFetch_pipelineOf (payload : Value) : NeverFetch (pipelineOf payload) := by
  unfold pipelineOf
  split
  · exact neverFetch_stagesOf _
  · split
    · exact neverFetch_stagesOf _
    · exact opens_error rfl
  · exact opens_error rfl

theorem neverFetch_projection (g : GroupedQuery) : NeverFetch g.projection := by
  refine Opens.map (P := fun _ => True) ?_ fun _ _ => trivial
  generalize ([] : Document) = d
  induction g.select generalizing d with
  | nil => exact opens_ok trivial
  | cons entry rest ih =>
      have hentry : NeverFetch (selectEntry entry) := by
        unfold selectEntry
        dsimp only
        split
        · exact opens_ok trivial
        · split
          · exact opens_ok trivial
          · split
            · exact opens_error rfl
            · exact opens_ok trivial
      unfold projectionFrom
      split
      · next e he => exact opens_error (hentry.2 e he)
      · exact ih _
      · exact ih _

end GroupedQuery

namespace ClientM

-- Whether an operation does so whatever the client.
def Opens {α : Type} (P : α → Prop) (x : ClientM α) : Prop := ∀ client, DocStore.Opens P (x client).1

variable {α β : Type} {P : α → Prop} {Q : β → Prop}

theorem opens_pure {a : α} (h : P a) : Opens P (pure a : ClientM α) := fun _ => opens_ok h

theorem opens_throw {e : DbError} (h : e.isFetch = false) : Opens P (throw e : ClientM α) :=
  fun _ => opens_error h

theorem Opens.bind {x : ClientM α} {f : α → ClientM β} (hx : Opens P x) (hf : ∀ a, P a → Opens Q (f a)) :
    Opens Q (x >>= f) := by
  intro client
  have hfirst := hx client
  cases h : x client with
  | mk r after =>
      rw [h] at hfirst
      cases r with
      | ok a =>
          rw [bind_of_ok f h]
          exact hf a (hfirst.1 a rfl) after
      | error e =>
          rw [bind_of_error f h]
          exact opens_error (hfirst.2 e rfl)

theorem opens_liftM_bind {r : Except DbError α} {f : α → ClientM β} (hr : NeverFetch r)
    (hf : ∀ a, Opens Q (f a)) : Opens Q (liftM r >>= f) := by
  cases r with
  | ok a => exact hf a
  | error e => exact opens_throw (hr.2 e rfl)

end ClientM

-- Whether the answer to a call, if it has one, has a property, whatever the store.
theorem Scope.opens_issue (scope : Scope) (activity : String) {c : Call} {P : c.Answer → Prop}
    (h : ∀ (s : Store) answer, (s.answer scope.session c).1 = .ok answer → P answer) :
    ClientM.Opens P (scope.issue activity c) := by
  intro client
  have hperform : ∀ (s : Store) answer, (s.perform scope.session c).1 = .ok answer → P answer := by
    intro s answer ha
    by_cases hf : s.failing = some c.name
    · rw [Store.perform_of_failing hf] at ha
      cases ha
    · rw [Store.perform_of_ready hf] at ha
      exact h _ answer ha
  simp only [issue, Client.issue]
  split
  · next answer store he => exact opens_ok (hperform _ answer (congrArg Prod.fst he))
  · exact opens_error rfl

theorem Store.isClosed_streamOf {docs : Except StoreError (List Document)} {stream : ResultStream}
    (h : streamOf docs = .ok stream) : stream.isClosed = false := by
  obtain ⟨rest, _, rfl⟩ := Except.map_eq_ok_iff.mp h
  rfl

namespace Cursor

-- Whether the cursor has a stream that is open and nothing on record.
def Fresh (c : Cursor) : Prop :=
  c.error = none ∧ ∃ stream, c.stream = some stream ∧ stream.isClosed = false

theorem fresh_opened (scope : Scope) {stream : ResultStream} (spec : Option CountSpec)
    (h : stream.isClosed = false) : (opened scope stream spec).Fresh := ⟨rfl, stream, rfl, h⟩

section

variable (scope : Scope) (g : GroupedQuery) (selector : Document)

theorem opens_over {x : ClientM ResultStream} (hx : x.Opens (·.isClosed = false)) (spec : Option CountSpec) :
    ClientM.Opens Fresh (do return opened scope (← x) spec) :=
  hx.bind fun _ hopen => ClientM.opens_pure (fresh_opened scope spec hopen)

theorem opens_find (name : String) (selector : Document) (options : FindOptions) :
    ClientM.Opens (α := ResultStream) (·.isClosed = false)
      (scope.issue "unable to find" (.find name selector options)) :=
  scope.opens_issue (c := .find name selector options) _ fun _ _ h => Store.isClosed_streamOf h

theorem opens_aggregate (name : String) (stages : List Document) (allowDiskUse : Bool) :
    ClientM.Opens (α := ResultStream) (·.isClosed = false)
      (scope.issue "unable to aggregate" (.aggregate name stages allowDiskUse)) :=
  scope.opens_issue (c := .aggregate name stages allowDiskUse) _ fun _ _ h => Store.isClosed_streamOf h

theorem opens_runCommandCursor (command : Document) :
    ClientM.Opens (α := ResultStream) (·.isClosed = false)
      (scope.issue "unable to run command" (.runCommandCursor command)) :=
  scope.opens_issue (c := .runCommandCursor command) _ fun _ _ h => Store.isClosed_streamOf h

theorem opens_openAggregate (items : List AggregateItem) :
    (openAggregate scope g items selector).Opens Fresh :=
  ClientM.opens_liftM_bind (GroupedQuery.neverFetch_groupStage items g.groupBy) fun _ =>
    opens_over scope (opens_aggregate scope _ _ _) _

theorem opens_openPipeline (payload : Value) : (openPipeline scope g payload selector).Opens Fresh :=
  ClientM.opens_liftM_bind (GroupedQuery.neverFetch_pipelineOf payload) fun _ =>
    opens_over scope (opens_aggregate scope _ _ _) _

theorem opens_openCommand (c : Command) : (openCommand scope g c selector).Opens Fresh := by
  unfold openCommand
  split
  · exact opens_openPipeline scope g selector c.payload
  · exact opens_openPipeline scope g selector c.payload
  · split
    · exact opens_over scope (opens_runCommandCursor scope _) _
    · exact ClientM.opens_throw rfl
  · exact ClientM.opens_throw rfl

theorem opens_openFind : (openFind scope g selector).Opens Fresh :=
  ClientM.opens_liftM_bind (GroupedQuery.neverFetch_projection g) fun _ =>
    opens_over scope (opens_find scope _ _ _) _

theorem opens_openAs : (openAs scope g selector).2.Opens Fresh := by
  unfold openAs
  split
  · exact opens_openAggregate scope g selector _
  · exact opens_openCommand scope g selector _
  · exact opens_openFind scope g selector

end

end Cursor

end DocStore
