import DocStore.Proofs.Document.Projection
import DocStore.Proofs.Pipeline.Group
import DocStore.Proofs.Value.Saturation

namespace DocStore.Pipeline

-- The integers that documents hold at a path.
def integersAt (path : String) (docs : List Document) : List Int :=
  docs.filterMap fun d => (d.getPath? path).bind Value.integer?

-- Whether a document holds an integer there that does not take anything away.
def adds (path : String) (d : Document) : Bool := ((d.getPath? path).bind Value.integer?).any Value.isGain

-- Whether all numbers at a path are integers.
def OnlyIntegers (path : String) (docs : List Document) : Prop :=
  ∀ d ∈ docs, ∀ v, d.getPath? path = some v → v.isNumber = true → ∃ n, v.integer? = some n

theorem evaluate_reference (d : Document) (path : String) :
    evaluate d (.string ("$" ++ path)) = (d.getPath? path).getD .null := by
  simp [evaluate, Document.reference?_append]

-- A column that sums up what stands at a path.
theorem Column.result_of_integers {c : Column} {path : String} {members : List Document}
    (hop : c.accumulator = "$sum") (hexpression : c.expression = .string ("$" ++ path))
    (honly : OnlyIntegers path members) :
    (c.after members).result = Value.ofInt (Value.saturate 0 (integersAt path members)) := by
  have hvalues : valuesOf c.expression members = members.map fun d => (d.getPath? path).getD .null := by
    rw [hexpression]
    exact List.map_congr_left fun d _ => evaluate_reference d path
  have hintegers : (valuesOf c.expression members).filterMap Value.integer? = integersAt path members := by
    rw [hvalues, List.filterMap_map, integersAt]
    refine List.filterMap_congr fun d _ => ?_
    cases hread : d.getPath? path <;> simp [hread, Value.integer?]
  have hnumbers : ∀ v ∈ valuesOf c.expression members, v.isNumber = true → ∃ n, v.integer? = some n := by
    rw [hvalues]
    refine List.forall_mem_map.mpr fun d hd hnumber => ?_
    cases hread : d.getPath? path with
    | none => simp [hread, Value.isNumber] at hnumber
    | some v => exact honly d hd v hread (by simpa [hread] using hnumber)
  obtain ⟨total, hsum⟩ := Accumulator.feedAll_integers hnumbers (Double.zero false) 0
  rw [after, start_eq (by rw [hop]; rfl), hsum, hintegers]
  rfl

-- Whether a grouping sums up in one column what stands at a path.
structure SumsUp (spec : Document) (keyExpression : Value) (label path : String) : Prop where
  distinct : spec.Distinct
  supported : SupportedSpec spec
  key : spec.get? "_id" = some keyExpression
  label_ne : label ≠ "_id"
  column : spec.get? label = some (.document [("$sum", .string ("$" ++ path))])

-- One column of the rows that a grouping gives.
def columnOf (spec : Document) (label : String) (docs : List Document) : Except StoreError (List (Option Value)) :=
  (group spec docs).map (·.map (·.get? label))

-- Whether all documents come into one group.
def OneGroup (keyExpression : Value) (docs : List Document) : Prop :=
  ∀ d ∈ docs, ∀ e ∈ docs, (evaluate d keyExpression).same (evaluate e keyExpression) = true

theorem partition_of_same {keyOf : Document → Value} {first : Document} {rest : List Document}
    (h : ∀ d ∈ rest, (keyOf first).same (keyOf d) = true) :
    partition keyOf (first :: rest) = [(keyOf first, first :: rest)] := by
  have hfrom : ∀ members, rest.foldl (fun parts d => assign d (keyOf d) parts) [(keyOf first, members)] =
      [(keyOf first, members ++ rest)] := by
    induction rest with
    | nil => simp
    | cons d more ih =>
        intro members
        obtain ⟨hd, hmore⟩ := List.forall_mem_cons.mp h
        rw [List.foldl_cons, assign, if_pos hd, ih hmore]
        simp
  exact hfrom [first]

theorem mem_of_mem_part {keyOf : Document → Value} {docs : List Document} {part : Value × List Document}
    (hpart : part ∈ partition keyOf docs) {d : Document} (hd : d ∈ part.2) : d ∈ docs :=
  (partition_perm keyOf docs).subset (List.mem_flatMap.mpr ⟨part, hpart, hd⟩)

section

variable {spec : Document} {keyExpression : Value} {label path : String} {docs : List Document}

theorem integersAt_filter (path : String) (docs : List Document) (p : Option Int → Bool) :
    integersAt path (docs.filter fun d => p ((d.getPath? path).bind Value.integer?)) =
      (integersAt path docs).filter fun n => p (some n) := by
  rw [integersAt, integersAt, List.filterMap_filter, List.filter_filterMap]
  refine List.filterMap_congr fun d _ => ?_
  cases (d.getPath? path).bind Value.integer? with
  | none => split <;> rfl
  | some n => rfl

theorem integersAt_append (path : String) (first second : List Document) :
    integersAt path (first ++ second) = integersAt path first ++ integersAt path second := List.filterMap_append

theorem integersAt_perm {other : List Document} (hperm : other.Perm docs) :
    (integersAt path other).Perm (integersAt path docs) := hperm.filterMap _

variable (hspec : SumsUp spec keyExpression label path) (honly : OnlyIntegers path docs)

include hspec honly

theorem columnOf_eq : columnOf spec label docs =
    .ok ((partition (evaluate · keyExpression) docs).map fun part =>
      some (Value.ofInt (Value.saturate 0 (integersAt path part.2)))) := by
  obtain ⟨columns, hcolumns, hall, hmem, hkeys⟩ := columnsOf_of_supported hspec.supported
  have hc := (hmem label "$sum" (.string ("$" ++ path))).mpr ⟨OrderedMap.mem_of_get? hspec.column, hspec.label_ne⟩
  rw [columnOf, group_eq hall hspec.key hcolumns, Except.map, List.map_map]
  refine congrArg Except.ok (List.map_congr_left fun part hpart => ?_)
  have hmembers : OnlyIntegers path part.2 := fun d hd => honly d (mem_of_mem_part hpart hd)
  rw [Function.comp_apply, get?_row (hkeys.nodup hspec.distinct) hc]
  exact congrArg some (Column.result_of_integers rfl rfl hmembers)

theorem columnOf_oneGroup (hone : OneGroup keyExpression docs) (hne : docs ≠ []) :
    columnOf spec label docs = .ok [some (Value.ofInt (Value.saturate 0 (integersAt path docs)))] := by
  obtain ⟨first, rest, rfl⟩ := List.exists_cons_of_ne_nil hne
  have hsame : ∀ d ∈ rest, (evaluate first keyExpression).same (evaluate d keyExpression) = true :=
    fun d hd => hone first List.mem_cons_self d (List.mem_cons_of_mem first hd)
  rw [columnOf_eq hspec honly, partition_of_same hsame]
  rfl

theorem columnOf_perm (hone : OneGroup keyExpression docs) (hne : docs ≠ []) {other : List Document}
    (hperm : other.Perm docs) :
    columnOf spec label other = .ok [some (Value.ofInt (Value.saturate 0 (integersAt path other)))] := by
  refine columnOf_oneGroup hspec (fun d hd => honly d (hperm.subset hd)) ?_ ?_
  · exact fun d hd e he => hone d (hperm.subset hd) e (hperm.subset he)
  · rintro rfl
    exact hne hperm.nil_eq.symm

-- The documents that add come first in one order and last in another, and the sums agree only if the
-- gains and the losses stay in the range.
theorem staysInRange_of_columnOf (hone : OneGroup keyExpression docs) (hne : docs ≠ [])
    (hfits : Integer.fits64 (integersAt path docs).sum = true)
    (h : ∀ other, other.Perm docs → columnOf spec label other = columnOf spec label docs) :
    Value.StaysInRange (integersAt path docs) := by
  have hgains : integersAt path (docs.filter (adds path)) = (integersAt path docs).filter Value.isGain :=
    integersAt_filter path docs (·.any Value.isGain)
  have hlosses : integersAt path (docs.filter (!adds path ·)) = (integersAt path docs).filter (!Value.isGain ·) :=
    integersAt_filter path docs (!·.any Value.isGain)
  have hup := List.filter_append_perm (adds path) docs
  have hdown := List.perm_append_comm.trans hup
  have hsame := (h _ hup).trans (h _ hdown).symm
  rw [columnOf_perm hspec honly hone hne hup, columnOf_perm hspec honly hone hne hdown, integersAt_append,
    integersAt_append, hgains, hlosses] at hsame
  have hvalue := Option.some.inj (List.cons.inj (Except.ok.inj hsame)).1
  have hzero : Integer.fits64 0 = true := rfl
  exact Value.staysInRange_of_orders hfits
    (Value.ofInt_injective (Value.fits64_saturate hzero _) (Value.fits64_saturate hzero _) hvalue)

-- Each group's sum is what its running sum comes to. If the integers' sum fits, it is the right one
-- exactly if nothing is cut off in all, as where the running sum always fits. The documents of one
-- group give the right sum in every order, and the same one in every order, exactly if their gains
-- and their losses stay in the range.
theorem sums_exact_iff :
    columnOf spec label docs = .ok ((partition (evaluate · keyExpression) docs).map fun part =>
      some (Value.ofInt (Value.saturate 0 (integersAt path part.2)))) ∧
    (∀ part ∈ partition (evaluate · keyExpression) docs, Integer.fits64 (integersAt path part.2).sum = true →
      (Value.ofInt (Value.saturate 0 (integersAt path part.2)) = Value.ofInt (integersAt path part.2).sum ↔
        Value.cutOff 0 (integersAt path part.2) = 0) ∧
      ((∀ lead, lead <+: integersAt path part.2 → Integer.fits64 lead.sum = true) →
        Value.cutOff 0 (integersAt path part.2) = 0)) ∧
    (OneGroup keyExpression docs → docs ≠ [] → Integer.fits64 (integersAt path docs).sum = true →
      ((∀ other, other.Perm docs →
          columnOf spec label other = .ok [some (Value.ofInt (integersAt path docs).sum)]) ↔
        Value.StaysInRange (integersAt path docs)) ∧
      ((∀ other, other.Perm docs → columnOf spec label other = columnOf spec label docs) ↔
        Value.StaysInRange (integersAt path docs))) := by
  refine ⟨columnOf_eq hspec honly, fun part _ hfits => ⟨?_, fun hpartial => ?_⟩, fun hone hne hfits => ?_⟩
  · have hzero : Integer.fits64 0 = true := rfl
    rw [← Value.saturate_eq_sum_iff]
    exact ⟨Value.ofInt_injective (Value.fits64_saturate hzero _) hfits, congrArg Value.ofInt⟩
  · have hsum : Value.saturate 0 (integersAt path part.2) = 0 + (integersAt path part.2).sum :=
      Value.saturate_of_partial_sums fun lead hlead => by
        rw [zero_add]
        exact hpartial lead hlead
    rw [zero_add] at hsum
    exact (Value.saturate_eq_sum_iff _).mp hsum
  · have hexact : Value.StaysInRange (integersAt path docs) → ∀ other, other.Perm docs →
        columnOf spec label other = .ok [some (Value.ofInt (integersAt path docs).sum)] := by
      intro hrange other hperm
      have hintegers : (integersAt path other).Perm (integersAt path docs) := integersAt_perm hperm
      rw [columnOf_perm hspec honly hone hne hperm, Value.saturate_of_staysInRange (hrange.perm hintegers),
        hintegers.sum_eq]
    have hrange := staysInRange_of_columnOf hspec honly hone hne hfits
    refine ⟨⟨fun h => hrange fun other hperm => ?_, hexact⟩, ⟨hrange, fun h other hperm => ?_⟩⟩
    · rw [h other hperm, h docs (List.Perm.refl docs)]
    · rw [hexact h other hperm, hexact h docs (List.Perm.refl docs)]

end

-- The sum of all that stands under `n`.
def totalSpec : Document := [("_id", .null), ("total", .document [("$sum", .string "$n")])]

theorem totalSpec_sumsUp : SumsUp totalSpec .null "total" "n" where
  distinct := by simp [totalSpec, OrderedMap.Distinct, OrderedMap.keys]
  supported := by
    intro field hfield hne
    simp only [totalSpec, List.mem_cons, List.not_mem_nil, or_false] at hfield
    rcases hfield with rfl | rfl
    · exact absurd rfl hne
    · exact ⟨"$sum", .string "$n", rfl, rfl⟩
  key := rfl
  label_ne := by decide
  column := rfl

def holding (v : Value) : Document := [("n", v)]

-- Two entries of which each alone is as large as can be, and one that takes one of them back.
def largeEntries : List Document :=
  [holding (.int64 9223372036854775807), holding (.int64 9223372036854775807), holding (.int64 (-9223372036854775807))]

def smallEntries : List Document := [holding (.int32 5), holding (.string "void"), holding (.int64 (-7))]

theorem sums_exact_iff_entries :
    (∀ other, other.Perm smallEntries → columnOf totalSpec "total" other = .ok [some (.int32 (-2))]) ∧
      ¬ ∀ other, other.Perm largeEntries →
        columnOf totalSpec "total" other = columnOf totalSpec "total" largeEntries := by
  have hone : ∀ docs, OneGroup .null docs := fun docs d _ e _ => rfl
  have hsmall : OnlyIntegers "n" smallEntries := by
    intro d hd v hread hnumber
    simp only [smallEntries, List.mem_cons, List.not_mem_nil, or_false] at hd
    rcases hd with rfl | rfl | rfl <;> cases hread
    · exact ⟨5, rfl⟩
    · cases hnumber
    · exact ⟨-7, rfl⟩
  have hlarge : OnlyIntegers "n" largeEntries := by
    intro d hd v hread _
    simp only [largeEntries, List.mem_cons, List.not_mem_nil, or_false] at hd
    rcases hd with rfl | rfl | rfl <;> cases hread <;> exact ⟨_, rfl⟩
  have hsum := (sums_exact_iff totalSpec_sumsUp hsmall).2.2 (hone _) (by simp [smallEntries]) (by decide)
  have hmany := (sums_exact_iff totalSpec_sumsUp hlarge).2.2 (hone _) (by simp [largeEntries]) (by decide)
  refine ⟨hsum.1.mpr ⟨by decide, by decide⟩, fun hsame => ?_⟩
  exact absurd (hmany.2.mp hsame).1 (by decide)

-- The sum of the large entries fits, and it is found in one order and comes to nothing in another.
theorem sums_not_exact :
    (integersAt "n" largeEntries).sum = 9223372036854775807 ∧
      columnOf totalSpec "total" largeEntries = .ok [some (.int32 0)] ∧
      columnOf totalSpec "total" largeEntries.reverse = .ok [some (.int64 9223372036854775807)] := by
  refine ⟨by decide, rfl, rfl⟩

end DocStore.Pipeline
