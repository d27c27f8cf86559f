import Mathlib.Algebra.Ring.Nat
import DocStore.Proofs.OrderedMap
import DocStore.Proofs.Outcome
import DocStore.Proofs.Pipeline.Accumulate
import DocStore.Proofs.Pipeline.Partition

namespace DocStore

namespace Value

theorem wellFormed_descend {v w : Value} {segments : List String} (hv : v.WellFormed)
    (h : v.descend segments = some w) : w.WellFormed := by
  induction segments generalizing v with
  | nil =>
      cases v <;> (cases h; exact hv)
  | cons segment rest ih =>
      cases v with
      | document fields =>
          simp only [descend] at h
          split at h
          · next inner hinner =>
              simp only [WellFormed, wellFormedFields_iff] at hv
              exact ih (hv.2 _ (OrderedMap.mem_of_get? hinner)) h
          · cases h
      | array items =>
          simp only [descend] at h
          split at h
          · split at h
            · next inner hinner =>
                simp only [WellFormed, wellFormedItems_iff] at hv
                exact ih (hv inner (List.mem_of_getElem? hinner)) h
            · cases h
          · cases h
      | _ => cases h

end Value

theorem Document.wellFormed_getPath? {d : Document} {path : String} {v : Value}
    (hd : (Value.document d).WellFormed) (h : d.getPath? path = some v) : v.WellFormed := by
  simp only [getPath?] at h
  split at h
  · cases h
  · exact Value.wellFormed_descend hd h

namespace Pipeline

section

variable {d : Document} {e : Value}

theorem keys_evaluateFields (d : Document) (fields : List (String × Value)) :
    OrderedMap.keys (evaluateFields d fields) = OrderedMap.keys fields := by
  induction fields with
  | nil => rfl
  | cons field rest ih =>
      simp only [OrderedMap.keys] at ih
      simp [evaluateFields, OrderedMap.keys, ih]

theorem evaluateFields_eq_map (d : Document) (fields : List (String × Value)) :
    evaluateFields d fields = fields.map fun field => (field.1, evaluate d field.2) := by
  induction fields with
  | nil => rfl
  | cons field rest ih => simp [evaluateFields, ih]

-- No document that an expression gives has a key twice.
theorem wellFormed_evaluate (hd : (Value.document d).WellFormed) (he : e.WellFormed) :
    (evaluate d e).WellFormed := by
  induction e using Value.tree_induction with
  | leaf v hv =>
      cases v with
      | string s =>
          simp only [evaluate]
          split
          · next path _ =>
              cases hread : d.getPath? path with
              | none => trivial
              | some w => exact Document.wellFormed_getPath? hd hread
          · trivial
      | document fields => cases hv
      | _ => exact he
  | array items _ => exact he
  | codeWithScope source scope _ => exact he
  | document fields ih =>
      simp only [Value.WellFormed, Value.wellFormedFields_iff] at he
      simp only [evaluate, Value.WellFormed, Value.wellFormedFields_iff]
      refine ⟨?_, ?_⟩
      · rw [OrderedMap.Distinct, keys_evaluateFields]
        exact he.1
      · rw [evaluateFields_eq_map]
        exact List.forall_mem_map.mpr fun field hfield => ih field hfield (he.2 field hfield)

end

-- The accumulator of a column before and after it has been fed.
def Column.start (c : Column) : Accumulator :=
  match Accumulator.ofName c.accumulator with
  | .ok acc => acc
  | .error _ => .push []

def valuesOf (expression : Value) (members : List Document) : List Value := members.map (evaluate · expression)

def Column.after (c : Column) (members : List Document) : Accumulator :=
  c.start.feedAll (valuesOf c.expression members)

-- The row of a part.
def rowOver (columns : List Column) (part : Value × List Document) : Row :=
  ⟨part.1, columns.map (·.after part.2)⟩

def Column.Supported (c : Column) : Prop := Accumulator.ofName c.accumulator = .ok c.start

section

variable {columns : List Column} {keyExpression : Value} {docs : List Document} {d : Document}
  {part : Value × List Document} {c : Column}

theorem Column.supported_of_isOk (h : (Accumulator.ofName c.accumulator).isOk = true) : c.Supported := by
  unfold Supported start
  cases hname : Accumulator.ofName c.accumulator with
  | ok acc => rfl
  | error e => rw [hname] at h; cases h

theorem feed_rowOver (columns : List Column) (part : Value × List Document) (d : Document) :
    (rowOver columns part).feed columns d = rowOver columns (part.1, part.2 ++ [d]) := by
  simp [Row.feed, rowOver, List.zipWith_map_left, List.zipWith_self, Column.after, valuesOf,
    Accumulator.feedAll_concat]

variable (hsupported : ∀ c ∈ columns, c.Supported)

include hsupported

theorem startAll_eq : startAll columns = .ok (columns.map Column.start) := by
  induction columns with
  | nil => rfl
  | cons c rest ih =>
      obtain ⟨hc, hrest⟩ := List.forall_mem_cons.mp hsupported
      rw [startAll, hc, ih hrest]
      rfl

-- A document is fed to the row of its part.
theorem addTo_map (d : Document) (key : Value) (parts : List (Value × List Document)) :
    addTo columns d key (parts.map (rowOver columns)) = .ok ((assign d key parts).map (rowOver columns)) := by
  induction parts with
  | nil =>
      have hfirst : (⟨key, columns.map Column.start⟩ : Row) = rowOver columns (key, []) := rfl
      rw [List.map_nil, addTo, startAll_eq hsupported]
      simp only [bind, Except.bind, pure, Except.pure, hfirst, feed_rowOver]
      rfl
  | cons part rest ih =>
      have hkey : (rowOver columns part).key = part.1 := rfl
      simp only [List.map_cons, addTo, assign, hkey, ih, feed_rowOver]
      split <;> rfl

theorem rowsOf_map (keyExpression : Value) (parts : List (Value × List Document)) (docs : List Document) :
    rowsOf keyExpression columns (parts.map (rowOver columns)) docs =
      .ok ((docs.foldl (fun parts d => assign d (evaluate d keyExpression) parts) parts).map
        (rowOver columns)) := by
  induction docs generalizing parts with
  | nil => rfl
  | cons d rest ih => simp only [rowsOf, addTo_map hsupported, ih, List.foldl_cons]

-- Grouping gives one row for each part.
theorem group_eq {spec : Document} (hkey : spec.get? "_id" = some keyExpression)
    (hcolumns : columnsOf spec = .ok columns) (docs : List Document) :
    group spec docs = .ok ((partition (evaluate · keyExpression) docs).map fun part =>
      (rowOver columns part).toDocument columns) := by
  have hrows : rowsOf keyExpression columns [] docs =
      .ok ((partition (evaluate · keyExpression) docs).map (rowOver columns)) :=
    rowsOf_map hsupported keyExpression [] docs
  simp [group, hkey, hcolumns, hrows, bind, Except.bind, pure, Except.pure]

end

-- What a column tells of the documents of its row: what its accumulator makes of their
-- values.
structure Describes (op : String) (expression : Value) (members : List Document) (v : Value) : Prop where
  fed : ∃ acc, Accumulator.ofName op = .ok acc ∧ v = (acc.feedAll (valuesOf expression members)).result
  sum : op = "$sum" → Accumulator.isOne expression = true → members.length ≤ Integer.max64 →
    v = Value.ofInt members.length
  push : op = "$push" → v = .array (valuesOf expression members)
  first : op = "$first" → (valuesOf expression members).head? = some v
  last : op = "$last" → (valuesOf expression members).getLast? = some v
  min : op = "$min" → (∀ w ∈ valuesOf expression members, w.hasSymbol = false) →
    ∃ best, Accumulator.IsBest .lt (valuesOf expression members) best ∧ v = best.getD .null
  max : op = "$max" → (∀ w ∈ valuesOf expression members, w.hasSymbol = false) →
    ∃ best, Accumulator.IsBest .gt (valuesOf expression members) best ∧ v = best.getD .null

theorem evaluate_of_isOne {e : Value} (h : Accumulator.isOne e = true) (d : Document) : evaluate d e = e := by
  cases e <;> first | rfl | cases h

theorem Column.start_eq {c : Column} {acc : Accumulator} (h : Accumulator.ofName c.accumulator = .ok acc) :
    c.start = acc := by
  rw [start, h]

-- A column that counts.
theorem Column.result_of_isOne {c : Column} {members : List Document} (hop : c.accumulator = "$sum")
    (hone : Accumulator.isOne c.expression = true) (hsize : members.length ≤ Integer.max64) :
    (c.after members).result = Value.ofInt members.length := by
  have hones : ∀ v ∈ valuesOf c.expression members, Accumulator.isOne v = true :=
    List.forall_mem_map.mpr fun d _ => by rw [evaluate_of_isOne hone d, hone]
  obtain ⟨total, hsum⟩ := Accumulator.feedAll_ones hones (by simpa [valuesOf] using hsize) (Double.zero false)
  rw [after, start_eq (by rw [hop]; rfl), hsum]
  simp [Accumulator.result, valuesOf]

theorem Column.describes {c : Column} {members : List Document} (hc : c.Supported) (hmembers : members ≠ []) :
    Describes c.accumulator c.expression members (c.after members).result := by
  have hvalues : valuesOf c.expression members ≠ [] := by simpa [valuesOf] using hmembers
  constructor
  case fed => exact ⟨c.start, hc, rfl⟩
  case sum => exact Column.result_of_isOne
  case push =>
    intro hop
    rw [after, start_eq (by rw [hop]; rfl), Accumulator.feedAll_push]
    rfl
  case first =>
    intro hop
    rw [after, start_eq (by rw [hop]; rfl), Accumulator.feedAll_first,
      Accumulator.result, List.head?_eq_some_head hvalues]
    rfl
  case last =>
    intro hop
    rw [after, start_eq (by rw [hop]; rfl), Accumulator.feedAll_last,
      Accumulator.result, List.getLast?_eq_some_getLast hvalues]
    rfl
  case min =>
    intro hop h
    rw [after, start_eq (by rw [hop]; rfl), Accumulator.feedAll_min]
    exact ⟨_, Accumulator.isBest_foldl (Or.inl rfl) h, rfl⟩
  case max =>
    intro hop h
    rw [after, start_eq (by rw [hop]; rfl), Accumulator.feedAll_max]
    exact ⟨_, Accumulator.isBest_foldl (Or.inr rfl) h, rfl⟩

-- Whether every field of a grouping but the key asks for an accumulator that there is.
def SupportedSpec (spec : Document) : Prop :=
  ∀ field ∈ spec, field.1 ≠ "_id" →
    ∃ op expression, field.2 = .document [(op, expression)] ∧ (Accumulator.ofName op).isOk = true

theorem columnsOf_of_supported {spec : Document} (h : SupportedSpec spec) :
    ∃ columns, columnsOf spec = .ok columns ∧ (∀ c ∈ columns, c.Supported) ∧
      (∀ label op expression, (⟨label, op, expression⟩ : Column) ∈ columns ↔
        (label, .document [(op, expression)]) ∈ spec ∧ label ≠ "_id") ∧
      (columns.map Column.key).Sublist spec.keys := by
  induction spec with
  | nil => exact ⟨[], rfl, by simp, by simp, List.Sublist.refl []⟩
  | cons field rest ih =>
      obtain ⟨hfield, hrest⟩ := List.forall_mem_cons.mp h
      obtain ⟨columns, hcolumns, hsupported, hmem, hkeys⟩ := ih hrest
      obtain ⟨key, arg⟩ := field
      by_cases hkey : key = "_id"
      · have hskipped : columnsOf ((key, arg) :: rest) = .ok columns := by
          rw [columnsOf.eq_def]
          simpa [hkey] using hcolumns
        refine ⟨columns, hskipped, hsupported, fun label op expression => ?_, hkeys.cons key⟩
        rw [hmem, List.mem_cons, Prod.mk.injEq]
        grind
      · obtain ⟨op, expression, harg, hop⟩ := hfield hkey
        dsimp only at harg
        subst harg
        refine ⟨⟨key, op, expression⟩ :: columns, by rw [columnsOf, if_neg hkey, hcolumns]; rfl, ?_, ?_,
          hkeys.cons_cons key⟩
        · exact List.forall_mem_cons.mpr ⟨Column.supported_of_isOk hop, hsupported⟩
        · intro label op' expression'
          rw [List.mem_cons, hmem, List.mem_cons]
          simp only [Column.mk.injEq, Prod.mk.injEq, Value.document.injEq, List.cons.injEq, and_true]
          grind

section

variable {columns : List Column} {part : Value × List Document} {c : Column}

theorem toDocument_rowOver (columns : List Column) (part : Value × List Document) :
    (rowOver columns part).toDocument columns =
      columns.foldl (fun d c => OrderedMap.insert d c.key (c.after part.2).result) [("_id", part.1)] := by
  have hzip : List.zip columns (columns.map (·.after part.2)) = columns.map fun c => (c, c.after part.2) := by
    rw [List.zip_map_right, List.zip_eq_zipWith, List.zipWith_self, List.map_map]
    rfl
  rw [Row.toDocument, rowOver, hzip, List.foldl_map]

theorem get?_row_id (h : "_id" ∉ columns.map Column.key) :
    ((rowOver columns part).toDocument columns).get? "_id" = some part.1 := by
  rw [toDocument_rowOver]
  exact OrderedMap.get?_foldl_insert_of_not_mem h [("_id", part.1)]

theorem get?_row (hd : (columns.map Column.key).Nodup) (hc : c ∈ columns) :
    ((rowOver columns part).toDocument columns).get? c.key = some (c.after part.2).result := by
  rw [toDocument_rowOver]
  exact OrderedMap.get?_foldl_insert_of_mem hd hc [("_id", part.1)]

end

-- Where a column counts, all rows together count all documents, whatever their keys.
theorem group_count {spec : Document} {docs rows : List Document} {label : String} (hspec : spec.Distinct)
    (hsupported : SupportedSpec spec) (hlabel : label ≠ "_id")
    (hcount : spec.get? label = some (.document [("$sum", .int32 1)]))
    (hsize : docs.length ≤ Integer.max64) (hrows : group spec docs = .ok rows) :
    ∃ counts : List Nat, rows.map (·.get? label) = counts.map (fun k : Nat => some (Value.ofInt k)) ∧
      counts.sum = docs.length := by
  cases hkey : spec.get? "_id" with
  | none => simp [group, hkey] at hrows
  | some keyExpression =>
      obtain ⟨columns, hcolumns, hall, hmem, hkeys⟩ := columnsOf_of_supported hsupported
      have hc := (hmem label "$sum" (.int32 1)).mpr ⟨OrderedMap.mem_of_get? hcount, hlabel⟩
      rw [group_eq hall hkey hcolumns, Except.ok.injEq] at hrows
      have hperm := (partition_perm (evaluate · keyExpression) docs).length_eq
      refine ⟨(partition (evaluate · keyExpression) docs).map (·.2.length), ?_, ?_⟩
      · rw [← hrows, List.map_map, List.map_map]
        refine List.map_congr_left fun part hpart => (get?_row (hkeys.nodup hspec) hc).trans ?_
        have hpartSize : part.2.length ≤ docs.length := by
          rw [← hperm, List.flatMap_def]
          exact (List.sublist_flatten_of_mem (List.mem_map_of_mem hpart)).length_le
        exact congrArg some (Column.result_of_isOne rfl rfl (hpartSize.trans hsize))
      · rw [← hperm, List.length_flatMap]

def hasKey (key : Value) (row : Document) : Bool := (row.get? "_id").any (·.same key)

-- Whether rows part the documents by a key expression: there is one for each key that is
-- seen first, no two are of the same key, every document belongs to one of them, and its
-- columns tell of the documents that do.
structure IsGrouping (spec : Document) (keyExpression : Value) (docs rows : List Document) : Prop where
  ordered : rows.map (·.get? "_id") = (firstSeen (docs.map (evaluate · keyExpression))).map some
  apart : rows.Pairwise fun row other => ∀ k l, row.get? "_id" = some k → other.get? "_id" = some l →
    k.same l = false ∧ l.same k = false
  one : ∀ d ∈ docs, rows.countP (hasKey (evaluate d keyExpression)) = 1
  described : ∀ row ∈ rows, ∃ key, row.get? "_id" = some key ∧
    ∀ label op expression, (label, .document [(op, expression)]) ∈ spec → label ≠ "_id" →
      ∃ v, row.get? label = some v ∧
        Describes op expression (docs.filter fun d => key.same (evaluate d keyExpression)) v

section

variable {spec : Document} {keyExpression : Value} {docs : List Document}

theorem group_isGrouping (hspec : (Value.document spec).WellFormed) (hkey : spec.get? "_id" = some keyExpression)
    (hsupported : SupportedSpec spec) (hdocs : ∀ d ∈ docs, (Value.document d).WellFormed)
    (hnan : ∀ d ∈ docs, (evaluate d keyExpression).hasNaN = false) :
    ∃ rows, group spec docs = .ok rows ∧ IsGrouping spec keyExpression docs rows := by
  simp only [Value.WellFormed, Value.wellFormedFields_iff] at hspec
  obtain ⟨columns, hcolumns, hall, hmem, hkeys⟩ := columnsOf_of_supported hsupported
  have hnodup : (columns.map Column.key).Nodup := hkeys.nodup hspec.1
  have hid : "_id" ∉ columns.map Column.key := fun h => by
    obtain ⟨c, hc, hck⟩ := List.mem_map.mp h
    exact ((hmem c.key c.accumulator c.expression).mp hc).2 hck
  have hwf : ∀ d ∈ docs, (evaluate d keyExpression).WellFormed := fun d hd =>
    wellFormed_evaluate (hdocs d hd) (hspec.2 _ (OrderedMap.mem_of_get? hkey))
  have hkeysWf : ∀ k ∈ docs.map (evaluate · keyExpression), k.WellFormed := List.forall_mem_map.mpr hwf
  have hself : ∀ k ∈ docs.map (evaluate · keyExpression), k.same k = true :=
    List.forall_mem_map.mpr fun d hd => (Value.same_self_iff (hwf d hd)).mpr (hnan d hd)
  refine ⟨_, group_eq hall hkey hcolumns docs, ?_⟩
  rw [partition_eq_map hwf hnan, List.map_map]
  constructor
  case ordered =>
    rw [List.map_map]
    exact List.map_congr_left fun k _ => get?_row_id hid
  case apart =>
    refine List.pairwise_map.mpr ((firstSeen_apart hkeysWf).imp fun {k l} hapart k' l' hk' hl' => ?_)
    simp only [Function.comp_apply, get?_row_id hid, Option.some.injEq] at hk' hl'
    rwa [← hk', ← hl']
  case one =>
    intro d hd
    rw [List.countP_map]
    simp only [Function.comp_def, hasKey, get?_row_id hid, Option.any_some]
    exact countP_eq_one (firstSeen_one hkeysWf (hwf d hd))
      (exists_firstSeen ⟨evaluate d keyExpression, List.mem_map_of_mem hd, hself _ (List.mem_map_of_mem hd)⟩)
  case described =>
    refine List.forall_mem_map.mpr fun k hk => ⟨k, get?_row_id hid, fun label op expression hfield hlabel => ?_⟩
    have hc := (hmem label op expression).mpr ⟨hfield, hlabel⟩
    refine ⟨_, get?_row hnodup hc, Column.describes (hall _ hc) fun hnone => ?_⟩
    obtain ⟨d, hd, rfl⟩ := List.mem_map.mp (firstSeen_subset _ hk)
    exact List.filter_eq_nil_iff.mp hnone d hd (hself _ (List.mem_map_of_mem hd))

end

end Pipeline

end DocStore
