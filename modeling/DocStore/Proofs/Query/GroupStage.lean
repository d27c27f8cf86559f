import DocStore.Proofs.OrderedMap
import DocStore.Query.Stage
import Mathlib.Data.List.Dedup
import Mathlib.Data.Set.Function

namespace DocStore

namespace GroupedQuery

section

variable {items : List AggregateItem} {keys : List String} {stage spec : Document}

theorem reference_injective : Function.Injective reference := by
  intro path other h
  have htext : "$" ++ path = "$" ++ other := by injection h
  have hlist := congrArg String.toList htext
  simp only [String.toList_append, List.append_cancel_left_eq] at hlist
  exact String.toList_inj.mp hlist

-- What an item asks of every group.
def expressionOf (item : AggregateItem) : Value :=
  match item.op with
  | .count => .document [("$sum", .int32 1)]
  | op => .document [(op.name, reference item.field)]

-- Counting is the only operator that goes without a field.
def Usable (item : AggregateItem) : Prop := item.op = .count ∨ item.field ≠ ""

theorem accumulator_of_usable {item : AggregateItem} (h : Usable item) :
    accumulator item = .ok (expressionOf item) := by
  obtain ⟨op, field, label⟩ := item
  rcases h with hcount | hfield
  · have hop : op = .count := hcount
    subst hop
    rfl
  · have hnonempty : field.isEmpty = false := by simpa using hfield
    cases op <;> simp [accumulator, expressionOf, hnonempty]

theorem accumulator_of_not_usable {item : AggregateItem} (h : ¬ Usable item) :
    accumulator item = .error (.malformed (.fieldExpected item.op)) := by
  obtain ⟨op, field, label⟩ := item
  simp only [Usable, not_or, not_not] at h
  obtain ⟨hop, hfield⟩ := h
  cases op <;> simp_all [accumulator]

theorem addAccumulators_ok_iff :
    addAccumulators stage items = .ok spec ↔ (∀ item ∈ items, Usable item) ∧
      spec = items.foldl
        (fun stage item => OrderedMap.insert stage item.outputKey (expressionOf item)) stage := by
  induction items generalizing stage with
  | nil => simp [addAccumulators, eq_comm]
  | cons item rest ih =>
      by_cases husable : Usable item
      · simp [addAccumulators, accumulator_of_usable husable, ih, husable]
      · simp [addAccumulators, accumulator_of_not_usable husable, husable]

-- A stage is refused only for an item without the field it needs.
theorem groupStage_ok_iff :
    groupStage items keys = .ok stage ↔ (∀ item ∈ items, Usable item) ∧
      stage = items.foldl (fun stage item => OrderedMap.insert stage item.outputKey (expressionOf item))
        [("_id", groupKey keys)] :=
  addAccumulators_ok_iff

-- The fields that tell the groups apart.
def keyFields (keys : List String) : Document :=
  OrderedMap.ofList ((groupKeys keys).map fun key => (underscored key, reference key))

theorem groupKey_eq (keys : List String) :
    groupKey keys = if groupKeys keys = [] then .string "" else .document (keyFields keys) := by
  unfold groupKey keyFields
  split
  · next hnone => simp [hnone]
  · next hsome => rw [if_neg fun hnone => hsome hnone]

theorem keyFields_eq_foldl (keys : List String) : keyFields keys =
    (groupKeys keys).foldl
      (fun fields key => OrderedMap.insert fields (underscored key) (reference key)) [] := by
  unfold keyFields
  rw [OrderedMap.ofList, List.foldl_map]

theorem distinct_keyFields (keys : List String) : (keyFields keys).Distinct := by
  rw [keyFields_eq_foldl]
  exact OrderedMap.distinct_nil.foldl_insert underscored reference _

-- The last key of a name is the one that is read under it.
theorem get?_keyFields (keys : List String) (name : String) : (keyFields keys).get? name =
    ((groupKeys keys).reverse.find? (underscored · == name)).map reference := by
  rw [keyFields_eq_foldl, OrderedMap.get?_foldl_insert]
  simp

theorem mem_keyFields {entry : String × Value} (h : entry ∈ keyFields keys) :
    ∃ key ∈ groupKeys keys, entry = (underscored key, reference key) := by
  rw [keyFields_eq_foldl] at h
  rcases OrderedMap.mem_foldl_insert OrderedMap.distinct_nil h with hold | hkey
  · cases hold
  · exact hkey

theorem get?_keyFields_of_injOn (h : Set.InjOn underscored {key | key ∈ groupKeys keys})
    {key : String} (hkey : key ∈ groupKeys keys) :
    (keyFields keys).get? (underscored key) = some (reference key) := by
  rw [get?_keyFields]
  cases hlast : (groupKeys keys).reverse.find? (underscored · == underscored key) with
  | none =>
      have hnone := List.find?_eq_none.mp hlast key (List.mem_reverse.mpr hkey)
      simp at hnone
  | some last =>
      have hname : underscored last = underscored key := by simpa using List.find?_some hlast
      have hmem : last ∈ groupKeys keys := List.mem_reverse.mp (List.mem_of_find?_eq_some hlast)
      rw [h hmem hkey hname, Option.map_some]

theorem mem_values_keyFields_of_injOn (h : Set.InjOn underscored {key | key ∈ groupKeys keys})
    (v : Value) : v ∈ (keyFields keys).values ↔ ∃ key ∈ groupKeys keys, reference key = v := by
  constructor
  · intro hv
    obtain ⟨entry, hentry, rfl⟩ := List.mem_map.mp hv
    obtain ⟨key, hkey, rfl⟩ := mem_keyFields hentry
    exact ⟨key, hkey, rfl⟩
  · rintro ⟨key, hkey, rfl⟩
    exact List.mem_map_of_mem (f := (·.2)) (OrderedMap.mem_of_get? (get?_keyFields_of_injOn h hkey))

-- Whatever the names, no path is read twice.
theorem nodup_values_keyFields (keys : List String) : (keyFields keys).values.Nodup := by
  refine List.Nodup.map_on ?_ (distinct_keyFields keys).of_map
  intro first hfirst second hsecond hsame
  obtain ⟨key, hkey, rfl⟩ := mem_keyFields hfirst
  obtain ⟨other, hother, rfl⟩ := mem_keyFields hsecond
  rw [reference_injective hsame]

-- Each distinct key is read exactly if no two of them share a name.
theorem perm_values_keyFields_iff (keys : List String) :
    (keyFields keys).values.Perm ((groupKeys keys).dedup.map reference) ↔
      Set.InjOn underscored {key | key ∈ groupKeys keys} := by
  constructor
  · intro hperm key hkey other hother hname
    -- each of the two is read somewhere, and a key is read only under its own name
    have hread : ∀ key ∈ groupKeys keys, (keyFields keys).get? (underscored key) = some (reference key) := by
      intro key hkey
      have hv : reference key ∈ (keyFields keys).values :=
        hperm.mem_iff.mpr (List.mem_map_of_mem (List.mem_dedup.mpr hkey))
      obtain ⟨entry, hentry, hvalue⟩ := List.mem_map.mp hv
      obtain ⟨own, -, rfl⟩ := mem_keyFields hentry
      rw [reference_injective hvalue] at hentry
      exact (distinct_keyFields keys).get?_of_mem hentry
    have hsame := hread key hkey
    rw [hname, hread other hother] at hsame
    exact reference_injective (Option.some.inj hsame).symm
  · intro h
    have hnodup : ((groupKeys keys).dedup.map reference).Nodup :=
      (List.nodup_dedup _).map reference_injective
    apply (List.perm_ext_iff_of_nodup (nodup_values_keyFields keys) hnodup).mpr
    intro v
    rw [mem_values_keyFields_of_injOn h]
    simp

-- A group is known by the values at the keys, each distinct key read once; without keys there is one group.
def GroupsBy (keys : List String) (id : Value) : Prop :=
  if groupKeys keys = [] then id = .string ""
  else ∃ fields : Document, id = .document fields ∧ fields.Distinct ∧
    fields.values.Perm ((groupKeys keys).dedup.map reference)

theorem groupsBy_groupKey_iff (keys : List String) :
    GroupsBy keys (groupKey keys) ↔ Set.InjOn underscored {key | key ∈ groupKeys keys} := by
  rw [GroupsBy, groupKey_eq]
  by_cases hnone : groupKeys keys = []
  · simp [hnone]
  · rw [if_neg hnone, if_neg hnone, ← perm_values_keyFields_iff]
    constructor
    · rintro ⟨fields, hfields, -, hperm⟩
      cases hfields
      exact hperm
    · exact fun hperm => ⟨keyFields keys, rfl, distinct_keyFields keys, hperm⟩

-- Whatever was asked for is in the stage: the keys, and an accumulator of its own for every item.
structure LosesNothing (items : List AggregateItem) (keys : List String) (stage : Document) : Prop where
  groups : ∃ id, stage.get? "_id" = some id ∧ GroupsBy keys id
  accumulates : (stage.erase "_id").values.Perm (items.map expressionOf)

-- The stage has room for every item only if no two items share a name and none is named like the grouping.
theorem nodup_of_losesNothing (h : groupStage items keys = .ok stage) (hkept : LosesNothing items keys stage) :
    ("_id" :: items.map AggregateItem.outputKey).Nodup := by
  obtain ⟨id, hid, -⟩ := hkept.groups
  have hmem : "_id" ∈ stage.keys := OrderedMap.get?_isSome_iff.mp (by rw [hid]; rfl)
  have hrest := OrderedMap.length_erase_of_mem hmem
  have hcount : (stage.erase "_id").length = items.length := by
    simpa [OrderedMap.values] using hkept.accumulates.length_eq
  have hlength : stage.length = 1 + items.length := by omega
  rw [(groupStage_ok_iff.mp h).2] at hlength
  exact OrderedMap.nodup_of_length_foldl_insert (OrderedMap.distinct_singleton _) hlength

theorem groupStage_eq_of_nodup (h : groupStage items keys = .ok stage)
    (hnodup : ("_id" :: items.map AggregateItem.outputKey).Nodup) :
    stage = ("_id", groupKey keys) :: items.map fun item => (item.outputKey, expressionOf item) := by
  rw [(groupStage_ok_iff.mp h).2]
  exact OrderedMap.foldl_insert_of_nodup hnodup

-- A grouping stage that is built holds all that was asked for exactly if no two items share an output
-- name, none is named _id and no two keys differ only in dots and underscores. Otherwise what comes
-- last under a name is what the stage holds there.
theorem groupStage_losesNothing_iff (h : groupStage items keys = .ok stage) :
    (LosesNothing items keys stage ↔ ("_id" :: items.map AggregateItem.outputKey).Nodup ∧
      Set.InjOn underscored {key | key ∈ groupKeys keys}) ∧
    (∀ name, stage.get? name = ((items.reverse.find? (·.outputKey == name)).map expressionOf).or
      (if name = "_id" then some (groupKey keys) else none)) ∧
    ∀ fields : Document, groupKey keys = .document fields → ∀ name, fields.get? name =
      ((groupKeys keys).reverse.find? (underscored · == name)).map reference := by
  refine ⟨⟨fun hkept => ?_, fun ⟨hnodup, hinj⟩ => ?_⟩, fun name => ?_, fun fields hfields name => ?_⟩
  · have hnodup := nodup_of_losesNothing h hkept
    obtain ⟨id, hid, hgroups⟩ := hkept.groups
    rw [groupStage_eq_of_nodup h hnodup, OrderedMap.get?_cons, if_pos rfl] at hid
    cases hid
    exact ⟨hnodup, (groupsBy_groupKey_iff keys).mp hgroups⟩
  · rw [groupStage_eq_of_nodup h hnodup]
    refine ⟨⟨groupKey keys, rfl, (groupsBy_groupKey_iff keys).mpr hinj⟩, ?_⟩
    have hvalues : (OrderedMap.erase (("_id", groupKey keys) :: items.map fun item =>
        (item.outputKey, expressionOf item)) "_id").values = items.map expressionOf := by
      simp [OrderedMap.erase, OrderedMap.values]
    rw [hvalues]
  · rw [(groupStage_ok_iff.mp h).2, OrderedMap.get?_foldl_insert, OrderedMap.get?_cons, OrderedMap.get?_nil]
    simp only [eq_comm]
  · rw [groupKey_eq] at hfields
    split at hfields
    · cases hfields
    · cases hfields
      exact get?_keyFields keys name

-- A sum and an average of one field are told apart by a label.
theorem groupStage_losesNothing_payByDepartment :
    let items : List AggregateItem :=
      [.ofField .sum "pay.base", (AggregateItem.ofField .avg "pay.base").withLabel "mean", .count "n"]
    ∃ stage, groupStage items ["dept.name", " ", "site"] = .ok stage ∧
      LosesNothing items ["dept.name", " ", "site"] stage := by
  intro items
  have hkeys : groupKeys ["dept.name", " ", "site"] = ["dept.name", "site"] := by decide
  have hinj : Set.InjOn underscored {key | key ∈ groupKeys ["dept.name", " ", "site"]} := by
    have hnames : underscored "dept.name" = "dept_name" ∧ underscored "site" = "site" := by decide
    rw [hkeys]
    simp [Set.InjOn, hnames]
  refine ⟨_, rfl, (groupStage_losesNothing_iff rfl).1.mpr ⟨by decide, hinj⟩⟩

-- Both go by the name of the field unless one is labelled, and the sum is gone.
theorem groupStage_loses_sum :
    ∃ stage, groupStage [.ofField .sum "salary", .ofField .avg "salary"] [] = .ok stage ∧
      ¬ LosesNothing [.ofField .sum "salary", .ofField .avg "salary"] [] stage := by
  refine ⟨[("_id", .string ""), ("salary", .document [("$avg", .string "$salary")])], rfl, fun hkept => ?_⟩
  have hlength : 1 = 2 := hkept.accumulates.length_eq
  cases hlength

end

end GroupedQuery

end DocStore
