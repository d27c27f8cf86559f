import DocStore.Cursor.Open
import DocStore.Proofs.Client
import DocStore.Proofs.Cursor.Fetch
import DocStore.Proofs.Pipeline.Group
import DocStore.Proofs.Store.Selection

namespace DocStore

namespace GroupedQuery

open Pipeline

section

variable {item : AggregateItem} {items : List AggregateItem} {stage spec : Document} {v : Value} {key : String}

theorem supported_accumulator (h : accumulator item = .ok v) :
    ∃ op expression, v = .document [(op, expression)] ∧ (Accumulator.ofName op).isOk = true := by
  obtain ⟨op, field, label⟩ := item
  cases op
  case count =>
    cases h
    exact ⟨"$sum", .int32 1, rfl, rfl⟩
  all_goals
    simp only [accumulator] at h
    split at h
    · cases h
    · cases h
      exact ⟨_, _, rfl, by decide⟩

-- Items leave what stands under other names.
theorem get?_addAccumulators_of_not_mem (h : addAccumulators stage items = .ok spec)
    (hkey : ∀ item ∈ items, item.outputKey ≠ key) : spec.get? key = stage.get? key := by
  induction items generalizing stage with
  | nil =>
      cases h
      rfl
  | cons item rest ih =>
      obtain ⟨hitem, hrest⟩ := List.forall_mem_cons.mp hkey
      unfold addAccumulators at h
      split at h
      · next v _ => rw [ih h hrest, OrderedMap.get?_insert_of_ne stage v hitem]
      · cases h

-- The only item of a name is found under it.
theorem get?_addAccumulators (h : addAccumulators stage items = .ok spec)
    (hitem : items.filter (·.outputKey == item.outputKey) = [item]) :
    ∃ v, accumulator item = .ok v ∧ spec.get? item.outputKey = some v := by
  induction items generalizing stage with
  | nil => cases hitem
  | cons first rest ih =>
      unfold addAccumulators at h
      split at h
      · next v hv =>
          by_cases hname : first.outputKey = item.outputKey
          · rw [List.filter_cons_of_pos (by simpa using hname), List.cons.injEq] at hitem
            obtain ⟨rfl, hrest⟩ := hitem
            refine ⟨v, hv, ?_⟩
            rw [get?_addAccumulators_of_not_mem h fun other hother hsame =>
              List.filter_eq_nil_iff.mp hrest other hother (by simpa using hsame)]
            exact OrderedMap.get?_insert_self stage first.outputKey v
          · rw [List.filter_cons_of_neg (by simpa using hname)] at hitem
            exact ih h hitem
      · cases h

theorem addAccumulators_supported (hd : stage.Distinct) (hstage : SupportedSpec stage)
    (h : addAccumulators stage items = .ok spec) : spec.Distinct ∧ SupportedSpec spec := by
  induction items generalizing stage with
  | nil =>
      cases h
      exact ⟨hd, hstage⟩
  | cons item rest ih =>
      unfold addAccumulators at h
      split at h
      · next v hv =>
          refine ih (hd.insert item.outputKey v) ?_ h
          refine (OrderedMap.forall_mem_insert_iff_of_distinct hd item.outputKey v).mpr ⟨fun _ => ?_, ?_⟩
          · exact supported_accumulator hv
          · exact fun field hfield _ => hstage field hfield
      · cases h

theorem groupStage_supported {keys : List String} (h : groupStage items keys = .ok spec) :
    spec.Distinct ∧ SupportedSpec spec :=
  addAccumulators_supported (by simp [OrderedMap.Distinct, OrderedMap.keys]) (by simp [SupportedSpec]) h

end

end GroupedQuery

namespace Store

-- Filters in front of a grouping leave it what they select.
theorem aggregateIn_group (s : Store) (session : Option SessionId) (name : String) (selector spec : Document) :
    s.aggregateIn session name (GroupedQuery.matchStage selector ++ [[("$group", .document spec)]]) =
      (do Pipeline.group spec (← s.selectIn session name selector)) := by
  have hgroup (docs : List Document) :
      Pipeline.run [[("$group", .document spec)]] docs = Pipeline.group spec docs := by
    change (do Pipeline.run [] (← Pipeline.group spec docs)) = _
    cases Pipeline.group spec docs <;> rfl
  unfold aggregateIn selectIn
  cases s.view session with
  | error e => rfl
  | ok data =>
      simp only [bind, Except.bind]
      unfold GroupedQuery.matchStage
      split
      · next hempty =>
          rw [List.isEmpty_iff.mp hempty, Selector.select_empty]
          exact hgroup _
      · rw [List.singleton_append, Pipeline.run_match]
        cases Selector.select selector (data.documents name) with
        | error e => rfl
        | ok found => exact hgroup found

end Store

namespace Record

theorem get?_coerceDates (d : Document) (key : String) :
    (coerceDates d).get? key = (d.get? key).map coerceDate := by
  induction d with
  | nil => rfl
  | cons field rest ih =>
      obtain ⟨own, v⟩ := field
      simp only [coerceDates] at ih
      simp only [coerceDates, List.map_cons, OrderedMap.get?_cons, ih]
      split <;> rfl

theorem coerceDate_ofInt (n : Int) : coerceDate (Value.ofInt n) = Value.ofInt n := by
  unfold Value.ofInt
  split <;> rfl

end Record

-- An aggregation that is answered reads what its session sees and is counted as a call.
theorem Scope.issue_aggregate {scope : Scope} {client after : Client} {activity name : String}
    {stages : List Document} {allowDiskUse : Bool} {stream : ResultStream}
    (h : scope.issue activity (.aggregate name stages allowDiskUse) client = (.ok stream, after)) :
    ∃ rows, client.store.aggregateIn scope.session name stages = .ok rows ∧ stream = { rest := rows } ∧
      after.store = { client.store with operations := client.store.operations + 1 } := by
  simp only [issue, Client.issue] at h
  split at h
  · next answer store hperform =>
      cases h
      have hperform : client.store.perform scope.session (.aggregate name stages allowDiskUse) =
          (.ok stream, store) := hperform
      by_cases hf : client.store.failing = some (Call.aggregate name stages allowDiskUse).name
      · rw [Store.perform_of_failing hf] at hperform
        cases hperform
      · rw [Store.perform_of_ready hf] at hperform
        obtain ⟨rows, hrows, hstream⟩ := Except.map_eq_ok_iff.mp (congrArg Prod.fst hperform)
        exact ⟨rows, hrows, hstream.symm, (congrArg Prod.snd hperform).symm⟩
  · cases h

namespace Cursor

section

variable {scope : Scope} {clauses : List Clause} {client : Client} {g : GroupedQuery}
  {items : List AggregateItem} {item : AggregateItem} {selector : Document}

theorem openAggregate_ok {c : Cursor} {after : Client}
    (h : openAggregate scope g items selector client = (.ok c, after)) :
    ∃ spec rows, GroupedQuery.groupStage items g.groupBy = .ok spec ∧
      (do Pipeline.group spec (← client.store.selectIn scope.session g.table selector)) = .ok rows ∧
      c = opened scope { rest := rows } (some (specOf g selector)) ∧
      after.store = { client.store with operations := client.store.operations + 1 } := by
  unfold openAggregate at h
  cases hspec : GroupedQuery.groupStage items g.groupBy with
  | error e =>
      rw [hspec] at h
      cases h
  | ok spec =>
      rw [hspec, ClientM.liftM_ok_bind] at h
      generalize hstages : GroupedQuery.matchStage selector ++ [[("$group", .document spec)]] = stages at h
      cases hissue : scope.issue "unable to aggregate" (.aggregate g.table stages true) client with
      | mk answer issued =>
          cases answer with
          | error e =>
              rw [ClientM.bind_of_error _ hissue] at h
              cases h
          | ok stream =>
              rw [ClientM.bind_of_ok _ hissue] at h
              cases h
              obtain ⟨rows, hrows, rfl, hstore⟩ := Scope.issue_aggregate hissue
              rw [← hstages, Store.aggregateIn_group] at hrows
              exact ⟨spec, rows, rfl, hrows, rfl, hstore⟩

-- The cursor of an aggregation query, where there is one.
theorem ofQuery_aggregate (hg : GroupedQuery.ofClauses clauses = .ok g) (hitems : g.aggregate = some items)
    (hopen : (ofQuery scope clauses client).1.stream.isSome = true) :
    ∃ selector spec rows, GroupedQuery.groupStage items g.groupBy = .ok spec ∧
      (do Pipeline.group spec (← client.store.selectIn scope.session g.table selector)) = .ok rows ∧
      (ofQuery scope clauses client).1 = opened scope { rest := rows } (some (specOf g selector)) ∧
      (ofQuery scope clauses client).2.store =
        { client.store with operations := client.store.operations + 1 } := by
  unfold ofQuery at hopen ⊢
  have hprepare : prepare scope clauses =
      (g.selector scope.config.compositePolicy).map fun selector => (g, selector) := by
    rw [prepare, hg]
    change (do return (g, ← g.selector scope.config.compositePolicy)) = _
    cases g.selector scope.config.compositePolicy <;> rfl
  rw [hprepare] at hopen ⊢
  cases hselector : g.selector scope.config.compositePolicy with
  | error e =>
      rw [hselector] at hopen
      cases hopen
  | ok selector =>
      rw [hselector] at hopen
      simp only [Except.map, openAs, hitems] at hopen ⊢
      cases hcursor : openAggregate scope g items selector client with
      | mk answer after =>
          rw [hcursor] at hopen
          cases answer with
          | error e => cases hopen
          | ok c =>
              obtain ⟨spec, rows, hspec, hrows, rfl, hstore⟩ := openAggregate_ok hcursor
              exact ⟨selector, spec, rows, hspec, hrows, rfl, hstore⟩

theorem fetchAll_asRecord (scope : Scope) (rows : List Document) (spec : Option CountSpec) :
    ((opened scope { rest := rows } spec).fetchAll Document.asRecord).1 = .ok (rows.map Record.coerceDates) := by
  refine fetchAll_of_reads rfl rfl ?_
  rw [Reads, List.forall₂_map_right_iff]
  exact List.forall₂_same.mpr fun _ _ => rfl

-- Whether a query has an item that counts, under a name that is its own.
structure CountsUnder (clauses : List Clause) (item : AggregateItem) : Prop where
  asked : ∃ g items, GroupedQuery.ofClauses clauses = .ok g ∧ g.aggregate = some items ∧
    items.filter (·.outputKey == item.outputKey) = [item]
  counting : item.op = .count
  named : item.outputKey ≠ "_id"

-- What the cursor counts is what the rows count together.
theorem ofQuery_count (hitem : CountsUnder clauses item)
    (hready : client.store.failing ≠ some "count_documents")
    (hopen : (ofQuery scope clauses client).1.stream.isSome = true) :
    let held := ofQuery scope clauses client
    ∃ n rows, (held.1.count held.2).1 = .ok n ∧ (held.1.fetchAll Document.asRecord).1 = .ok rows ∧
      (n ≤ Integer.max64 → ∃ counts : List Nat,
        rows.map (·.get? item.outputKey) = counts.map (fun k : Nat => some (Value.ofInt k)) ∧
          counts.sum = n) := by
  intro held
  obtain ⟨g, items, hg, hitems, hown⟩ := hitem.asked
  obtain ⟨selector, spec, rows, hspec, hrows, hcursor, hstore⟩ := ofQuery_aggregate hg hitems hopen
  obtain ⟨found, hfound, hgroup⟩ := Except.bind_eq_ok_iff.mp hrows
  refine ⟨found.length, rows.map Record.coerceDates, ?_, ?_, fun hsize => ?_⟩
  · have hcount : (held.2.store.perform scope.session (.countDocuments g.table selector)).1 =
        .ok found.length := by
      rw [Store.perform_of_read rfl rfl (by rw [hstore]; exact hready)]
      change held.2.store.countIn scope.session g.table selector = _
      rw [Store.countIn_eq_selectIn, hstore]
      exact congrArg (Except.map List.length) hfound
    change (held.1.count held.2).1 = _
    rw [show held.1 = _ from hcursor, count, opened]
    exact congrArg Prod.fst (Scope.issue_of_ok (Prod.ext hcount rfl))
  · rw [show held.1 = _ from hcursor]
    exact fetchAll_asRecord scope rows _
  · obtain ⟨hdistinct, hsupported⟩ := GroupedQuery.groupStage_supported hspec
    obtain ⟨v, hv, hget⟩ := GroupedQuery.get?_addAccumulators hspec hown
    rw [GroupedQuery.accumulator, hitem.counting, Except.ok.injEq] at hv
    rw [← hv] at hget
    obtain ⟨counts, hcounts, hsum⟩ :=
      Pipeline.group_count hdistinct hsupported hitem.named hget hsize hgroup
    refine ⟨counts, ?_, hsum⟩
    have hcoerced : (rows.map Record.coerceDates).map (·.get? item.outputKey) =
        (rows.map (·.get? item.outputKey)).map (Option.map Record.coerceDate) := by
      simp [Record.get?_coerceDates]
    rw [hcoerced, hcounts]
    simp [Record.coerceDate_ofInt]

end

-- The rows of a grouping part the documents by their keys, and each column tells of the
-- documents of its row. Where an aggregation query counts, its rows come to what the cursor
-- counts, whatever the keys, as far as whole numbers of 64 bits go.
theorem groups_partition_documents :
    (∀ (spec : Document) (keyExpression : Value) (docs : List Document),
      (Value.document spec).WellFormed → spec.get? "_id" = some keyExpression →
      Pipeline.SupportedSpec spec → (∀ d ∈ docs, (Value.document d).WellFormed) →
      (∀ d ∈ docs, (Pipeline.evaluate d keyExpression).hasNaN = false) →
      ∃ rows, Pipeline.group spec docs = .ok rows ∧ Pipeline.IsGrouping spec keyExpression docs rows) ∧
    ∀ (scope : Scope) (clauses : List Clause) (client : Client) (item : AggregateItem),
      CountsUnder clauses item → client.store.failing ≠ some "count_documents" →
      (ofQuery scope clauses client).1.stream.isSome = true →
      let held := ofQuery scope clauses client
      ∃ n rows, (held.1.count held.2).1 = .ok n ∧ (held.1.fetchAll Document.asRecord).1 = .ok rows ∧
        (n ≤ Integer.max64 → ∃ counts : List Nat,
          rows.map (·.get? item.outputKey) = counts.map (fun k : Nat => some (Value.ofInt k)) ∧
            counts.sum = n) :=
  ⟨fun _ _ _ => Pipeline.group_isGrouping, fun _ _ _ _ => ofQuery_count⟩

-- Three people in two departments, one of them without a salary.
def staff : List Document :=
  [[("name", .string "Ada"), ("dept", .string "eng"), ("salary", .int32 3)],
    [("name", .string "Bob"), ("dept", .string "ops"), ("salary", .int32 2)],
    [("name", .string "Cyd"), ("dept", .string "eng")]]

def byDepartment : Document :=
  [("_id", .string "$dept"), ("n", .document [("$sum", .int32 1)]),
    ("names", .document [("$push", .string "$name")]), ("most", .document [("$max", .string "$salary")])]

def countPerDepartment : List Clause :=
  [.table "staff", .groupBy ["dept"], .aggregate [.ofField .max "salary", .count "n"]]

theorem groups_partition_documents_staff :
    let held := ofQuery { config := {} } countPerDepartment { store := { committed := [("staff", staff)] } }
    (∃ rows, Pipeline.group byDepartment staff = .ok rows ∧
      rows.map (·.get? "n") = [some (.int32 2), some (.int32 1)] ∧
      Pipeline.IsGrouping byDepartment (.string "$dept") staff rows) ∧
    CountsUnder countPerDepartment (.count "n") ∧ (held.1.count held.2).1 = .ok 3 ∧
      ∃ (rows : List Document) (counts : List Nat), (held.1.fetchAll Document.asRecord).1 = .ok rows ∧
        rows.map (·.get? "n") = counts.map (fun k : Nat => some (Value.ofInt k)) ∧ counts.sum = 3 := by
  intro held
  obtain ⟨hgroups, hcounts⟩ := groups_partition_documents
  have hspec : (Value.document byDepartment).WellFormed := by
    simp [byDepartment, Value.WellFormed, Value.WellFormedFields, OrderedMap.Distinct, OrderedMap.keys]
  have hsupported : Pipeline.SupportedSpec byDepartment := by
    simp [Pipeline.SupportedSpec, byDepartment, Pipeline.Accumulator.ofName, Except.isOk, Except.toBool]
  have hstaff : ∀ d ∈ staff, (Value.document d).WellFormed := by
    simp [staff, Value.WellFormed, Value.WellFormedFields, OrderedMap.Distinct, OrderedMap.keys]
  have hitem : CountsUnder countPerDepartment (.count "n") := ⟨⟨_, _, rfl, rfl, rfl⟩, rfl, by decide⟩
  obtain ⟨rows, hrows, hgrouping⟩ := hgroups byDepartment (.string "$dept") staff hspec rfl hsupported hstaff
    (by decide)
  obtain ⟨n, found, hn, hfound, hsum⟩ := hcounts { config := {} } countPerDepartment
    { store := { committed := [("staff", staff)] } } (.count "n") hitem (by simp) (by decide +kernel)
  have hthree : (held.1.count held.2).1 = .ok 3 := by rfl
  obtain rfl : 3 = n := Except.ok.inj (hthree.symm.trans hn)
  obtain ⟨counts, hcolumn, htotal⟩ := hsum (by decide)
  exact ⟨⟨rows, hrows, by cases hrows; rfl, hgrouping⟩, hitem, hthree, found, counts, hfound, hcolumn, htotal⟩

end Cursor

end DocStore
