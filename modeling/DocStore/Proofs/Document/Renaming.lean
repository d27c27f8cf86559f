import DocStore.Config.Naming
import DocStore.Proofs.OrderedMap
import Mathlib.Data.List.Nodup

namespace DocStore

namespace FieldNaming

-- The name of a field once it is renamed.
def converted (naming : FieldNaming) (key : String) : String :=
  if key = "_id" then key else naming.apply key

-- The names that the fields other than the identifier get.
def newNames (naming : FieldNaming) (d : Document) : List String :=
  (d.filter (·.1 != "_id")).map fun field => naming.apply field.1

-- Whether renaming loses nothing: the identifier is what it was, there are as many fields as before,
-- and each value stands under the new name of its field.
structure KeepsFields (naming : FieldNaming) (d : Document) : Prop where
  identifier : (naming.renameKeys d).get? "_id" = d.get? "_id"
  length : (naming.renameKeys d).length = d.length
  values : ∀ field ∈ d, (naming.renameKeys d).get? (naming.converted field.1) = some field.2

section

variable {naming : FieldNaming} {d : Document} {field : String × Value}

@[simp] theorem converted_id (naming : FieldNaming) : naming.converted "_id" = "_id" := if_pos rfl

theorem converted_of_ne {key : String} (h : key ≠ "_id") : naming.converted key = naming.apply key := if_neg h

@[simp] theorem converted_asIs (key : String) : asIs.converted key = key := by
  unfold converted
  split <;> rfl

theorem mem_newNames_iff {name : String} :
    name ∈ naming.newNames d ↔ ∃ field ∈ d, field.1 ≠ "_id" ∧ naming.apply field.1 = name := by
  simp [newNames, and_assoc]

-- Also where the names stay as they are, the result is that of putting in one field after the other.
theorem renameKeys_eq_foldl (naming : FieldNaming) (hd : d.Distinct) :
    naming.renameKeys d =
      d.foldl (fun m field => OrderedMap.insert m (naming.converted field.1) field.2) [] := by
  have hrenamed : OrderedMap.ofList (d.map fun field =>
      if field.1 = "_id" then field else (naming.apply field.1, field.2)) =
        d.foldl (fun m field => OrderedMap.insert m (naming.converted field.1) field.2) [] := by
    rw [OrderedMap.ofList, List.foldl_map]
    congr
    funext m field
    unfold converted
    split <;> rfl
  cases naming with
  | asIs =>
      have hnodup : (OrderedMap.keys ([] : Document) ++ d.map fun field => asIs.converted field.1).Nodup := by
        simp only [converted_asIs]
        exact hd
      rw [OrderedMap.foldl_insert_of_nodup hnodup]
      simp [renameKeys]
  | _ => exact hrenamed

-- What stands under a name is what comes last among the fields that get it.
theorem get?_renameKeys (naming : FieldNaming) (hd : d.Distinct) (name : String) :
    (naming.renameKeys d).get? name =
      (d.reverse.find? (naming.converted ·.1 == name)).map (·.2) := by
  rw [renameKeys_eq_foldl naming hd, OrderedMap.get?_foldl_insert, OrderedMap.get?_nil, Option.or_none]

theorem distinct_renameKeys (naming : FieldNaming) (hd : d.Distinct) : (naming.renameKeys d).Distinct := by
  rw [renameKeys_eq_foldl naming hd]
  exact OrderedMap.distinct_nil.foldl_insert _ _ d

theorem mem_keys_renameKeys_iff (naming : FieldNaming) (hd : d.Distinct) {name : String} :
    name ∈ OrderedMap.keys (naming.renameKeys d) ↔ name ∈ (OrderedMap.keys d).map naming.converted := by
  rw [← OrderedMap.get?_isSome_iff, get?_renameKeys naming hd, Option.isSome_map, List.find?_isSome]
  simp [OrderedMap.keys]

-- Where no two fields get one name, each stays in its place.
theorem renameKeys_of_nodup (hd : d.Distinct) (h : (d.map fun field => naming.converted field.1).Nodup) :
    naming.renameKeys d = d.map fun field => (naming.converted field.1, field.2) := by
  have hall : (OrderedMap.keys ([] : Document) ++ d.map fun field => naming.converted field.1).Nodup := h
  rw [renameKeys_eq_foldl naming hd, OrderedMap.foldl_insert_of_nodup hall]
  rfl

theorem nodup_of_length_renameKeys (hd : d.Distinct) (h : (naming.renameKeys d).length = d.length) :
    (d.map fun field => naming.converted field.1).Nodup := by
  rw [renameKeys_eq_foldl naming hd] at h
  exact OrderedMap.nodup_of_length_foldl_insert OrderedMap.distinct_nil (by simpa using h)

-- The identifier keeps its name, so it is apart from the others if none of them gets that.
theorem nodup_converted (hd : d.Distinct) (h : ("_id" :: naming.newNames d).Nodup) :
    (d.map fun field => naming.converted field.1).Nodup := by
  obtain ⟨hid, hnames⟩ := List.nodup_cons.mp h
  have hcollides {other : String × Value} (hother : other ∈ d) (hne : other.1 ≠ "_id") :
      naming.converted other.1 ≠ "_id" := by
    rw [converted_of_ne hne]
    exact fun hname => hid (mem_newNames_iff.mpr ⟨other, hother, hne, hname⟩)
  refine List.Nodup.map_on (fun first hfirst second hsecond hsame => ?_) (List.Nodup.of_map _ hd)
  by_cases h₁ : first.1 = "_id" <;> by_cases h₂ : second.1 = "_id"
  · exact List.inj_on_of_nodup_map hd hfirst hsecond (h₁.trans h₂.symm)
  · rw [h₁, converted_id] at hsame
    exact absurd hsame.symm (hcollides hsecond h₂)
  · rw [h₂, converted_id] at hsame
    exact absurd hsame (hcollides hfirst h₁)
  · rw [converted_of_ne h₁, converted_of_ne h₂] at hsame
    have hfirst' : first ∈ d.filter (·.1 != "_id") := List.mem_filter.mpr ⟨hfirst, by simpa using h₁⟩
    have hsecond' : second ∈ d.filter (·.1 != "_id") := List.mem_filter.mpr ⟨hsecond, by simpa using h₂⟩
    exact List.inj_on_of_nodup_map hnames hfirst' hsecond' hsame

theorem keepsFields_of_nodup (hd : d.Distinct) (h : ("_id" :: naming.newNames d).Nodup) :
    naming.KeepsFields d := by
  have hnodup := nodup_converted hd h
  have hrenamed := renameKeys_eq_foldl naming hd
  have hvalues : ∀ field ∈ d, (naming.renameKeys d).get? (naming.converted field.1) = some field.2 := by
    intro field hfield
    rw [hrenamed]
    exact OrderedMap.get?_foldl_insert_of_mem hnodup hfield []
  refine ⟨?_, ?_, hvalues⟩
  · cases hid : d.get? "_id" with
    | some id => simpa using hvalues ("_id", id) (OrderedMap.mem_of_get? hid)
    | none =>
        have hunnamed : "_id" ∉ d.map fun field => naming.converted field.1 := by
          intro hmem
          obtain ⟨field, hfield, hname⟩ := List.mem_map.mp hmem
          by_cases hkey : field.1 = "_id"
          · exact OrderedMap.get?_eq_none_iff.mp hid (List.mem_map.mpr ⟨field, hfield, hkey⟩)
          · rw [converted_of_ne hkey] at hname
            exact (List.nodup_cons.mp h).1 (mem_newNames_iff.mpr ⟨field, hfield, hkey, hname⟩)
        rw [hrenamed, OrderedMap.get?_foldl_insert_of_not_mem hunnamed]
        rfl
  · rw [renameKeys_of_nodup hd hnodup, List.length_map]

theorem KeepsFields.nodup (hd : d.Distinct) (h : naming.KeepsFields d) :
    ("_id" :: naming.newNames d).Nodup := by
  have hnodup := nodup_of_length_renameKeys hd h.length
  refine List.nodup_cons.mpr ⟨fun hmem => ?_, ?_⟩
  · -- a field that takes the identifier's name would be the identifier
    obtain ⟨field, hfield, hkey, hname⟩ := mem_newNames_iff.mp hmem
    have hconverted : naming.converted field.1 = "_id" := (converted_of_ne hkey).trans hname
    have hthere := h.values field hfield
    rw [hconverted, h.identifier] at hthere
    have hsame : ("_id", field.2) = field :=
      List.inj_on_of_nodup_map hnodup (OrderedMap.mem_of_get? hthere) hfield (by simp [hconverted])
    exact hkey (congrArg Prod.fst hsame).symm
  · have hothers : naming.newNames d = (d.filter (·.1 != "_id")).map fun field => naming.converted field.1 :=
      List.map_congr_left fun field hfield =>
        (converted_of_ne (by simpa using (List.mem_filter.mp hfield).2)).symm
    rw [hothers]
    exact hnodup.sublist (List.filter_sublist.map _)

-- Every convention that changes names has one name for two.
theorem not_keepsFields_of_ne_asIs (h : naming ≠ asIs) (v w : Value) :
    ¬ naming.KeepsFields [("name", v), ("Name", w)] := by
  have hsame : naming.apply "Name" = naming.apply "name" := by
    cases naming with
    | asIs => exact absurd rfl h
    | _ => decide
  intro hkept
  have hnodup := hkept.nodup (by simp [OrderedMap.Distinct, OrderedMap.keys])
  simp [newNames, hsame] at hnodup

-- Renaming keeps every field exactly if the fields other than the identifier get names that differ
-- from one another and from the identifier's; where names stay as they are it always does. Whatever
-- becomes of the others, under each name stands the last field that gets it.
theorem renameKeys_keepsFields_iff (naming : FieldNaming) (hd : d.Distinct) :
    (naming.KeepsFields d ↔ ("_id" :: naming.newNames d).Nodup) ∧ asIs.KeepsFields d ∧
      ∀ name, (naming.renameKeys d).get? name =
        (d.reverse.find? (naming.converted ·.1 == name)).map (·.2) := by
  have hasIs : asIs.KeepsFields d := by
    refine ⟨rfl, rfl, fun field hfield => ?_⟩
    rw [converted_asIs]
    exact hd.get?_of_mem hfield
  exact ⟨⟨fun h => h.nodup hd, keepsFields_of_nodup hd⟩, hasIs, get?_renameKeys naming hd⟩

end

def settler : Document :=
  [("_id", .int32 10), ("firstName", .string "zed"), ("homeTown", .string "kano")]

theorem renameKeys_keepsFields_iff_settler : OrderedMap.Distinct settler ∧ snakeCase.KeepsFields settler ∧
    (snakeCase.renameKeys settler).get? "home_town" = some (.string "kano") := by
  have hd : OrderedMap.Distinct settler := by simp [settler, OrderedMap.Distinct, OrderedMap.keys]
  obtain ⟨hiff, _, hlast⟩ := renameKeys_keepsFields_iff snakeCase hd
  exact ⟨hd, hiff.mpr (by decide), hlast "home_town"⟩

-- Of two names that differ in their case one is lost, and one that is written like the identifier
-- takes its place.
theorem renaming_loses_fields : ¬ ∀ (naming : FieldNaming) (d : Document), OrderedMap.Distinct d →
    naming.KeepsFields d := by
  intro h
  have hkept := h lowercase [("_id", .int32 1), ("_ID", .int32 2)]
    (by simp [OrderedMap.Distinct, OrderedMap.keys])
  have hid : some (Value.int32 2) = some (.int32 1) := hkept.identifier
  cases hid

end FieldNaming

end DocStore
