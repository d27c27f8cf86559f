import DocStore.Proofs.Document.Renaming
import DocStore.Proofs.Text.Case
import DocStore.Record
import DocStore.Store.Collection

namespace DocStore

namespace FieldNaming

def isSeparator (c : Char) : Bool := c == '_' || c == '-'

-- Whether the key begins with more than one separator and a letter comes next.
def raisesFirst (key : String) : Bool :=
  decide (1 < (key.toList.takeWhile isSeparator).length) &&
    (key.toList.dropWhile isSeparator).head?.any Char.isAlpha

-- Whether the key is settled when it has been converted once. In camel case a first letter that was raised
-- is made small the next time.
def SettlesAtOnce (naming : FieldNaming) (key : String) : Prop := naming = camelCase → raisesFirst key = false

instance (naming : FieldNaming) (key : String) : Decidable (naming.SettlesAtOnce key) :=
  inferInstanceAs (Decidable (naming = camelCase → raisesFirst key = false))

-- What the ASCII keys look like that a convention leaves as they are.
def Follows : FieldNaming → String → Prop
  | asIs, _ => True
  | lowercase, key => ∀ c ∈ key.toList, c.isUpper = false
  | snakeCase, key => ∀ c ∈ key.toList, c.isUpper = false
  | camelCase, key => (∀ c ∈ key.toList, isSeparator c = false) ∧ ∀ c ∈ key.toList.head?, c.isUpper = false

-- Whether the fields of a document are those that were written under the given keys. An identifier may
-- have been added, and the values may have changed.
structure WrittenUnder (naming : FieldNaming) (written : List String) (d : Document) : Prop where
  distinct : OrderedMap.Distinct d
  names : ∀ name, name ≠ "_id" → (name ∈ OrderedMap.keys d ↔ name ∈ written.map naming.converted)

section

variable {naming : FieldNaming} {key : String} {c : Char} {cs : List Char} {d : Document}
  {written : List String}

theorem map_toLower_of_no_capital (h : ∀ c ∈ cs, c.isUpper = false) : cs.map Char.toLower = cs :=
  (List.map_congr_left fun c hc => Char.toLower_eq_of_not_isUpper (by simp [h c hc])).trans (List.map_id' cs)

theorem snakeFrom_of_no_capital (h : ∀ c ∈ cs, Text.isUppercase c = false) (afterSmall : Bool) :
    snakeFrom afterSmall cs = cs := by
  induction cs generalizing afterSmall with
  | nil => rfl
  | cons c rest ih =>
      obtain ⟨hc, hrest⟩ := List.forall_mem_cons.mp h
      simp [snakeFrom, hc, ih hrest]

-- A capital becomes small, and what may be put in front of it is no letter.
theorem small_of_mem_snakeFrom (h : ∀ c ∈ cs, Text.isAscii c = true) (afterSmall : Bool) :
    ∀ c ∈ snakeFrom afterSmall cs, Text.isAscii c = true ∧ c.isUpper = false := by
  induction cs generalizing afterSmall with
  | nil => simp [snakeFrom]
  | cons c rest ih =>
      obtain ⟨hc, hrest⟩ := List.forall_mem_cons.mp h
      rw [snakeFrom, Text.isUppercase_of_isAscii hc, Text.lower_of_isAscii hc]
      by_cases hupper : c.isUpper = true
      · rw [if_pos hupper, List.forall_mem_append, List.forall_mem_append]
        refine ⟨⟨?_, ?_⟩, ih hrest false⟩
        · cases afterSmall <;> simp [Text.isAscii]
        · simpa using (Text.isAscii_forms hc).1
      · rw [if_neg hupper, List.forall_mem_cons]
        exact ⟨⟨hc, by simpa using hupper⟩, ih hrest _⟩

theorem isSeparator_iff : isSeparator c = true ↔ c = '_' ∨ c = '-' := by simp [isSeparator]

theorem not_isSeparator_of_isAlpha (c : Char) (h : c.isAlpha = true) : isSeparator c = false := by
  rw [Bool.eq_false_iff, ne_eq, isSeparator_iff]
  rintro (rfl | rfl) <;> cases h

theorem camelFrom_separator (h : isSeparator c = true) (atStart raise isEmpty : Bool) (rest : List Char) :
    camelFrom atStart raise isEmpty (c :: rest) = camelFrom false (!atStart) isEmpty rest :=
  if_pos (isSeparator_iff.mp h)

theorem camelFrom_other (h : isSeparator c = false) (atStart raise isEmpty : Bool) (rest : List Char) :
    camelFrom atStart raise isEmpty (c :: rest) =
      (if raise then Text.upper c else if isEmpty then Text.lower c else [c]) ++
        camelFrom false false false rest := by
  have hplain : ¬ (c = '_' ∨ c = '-') := fun hc => by simp [isSeparator_iff.mpr hc] at h
  rw [camelFrom, if_neg hplain]
  cases raise <;> cases isEmpty <;> rfl

theorem camelFrom_of_no_separator (h : ∀ c ∈ cs, isSeparator c = false) (atStart : Bool) :
    camelFrom atStart false false cs = cs := by
  induction cs generalizing atStart with
  | nil => rfl
  | cons c rest ih =>
      obtain ⟨hc, hrest⟩ := List.forall_mem_cons.mp h
      rw [camelFrom_other hc, ih hrest]
      rfl

-- Separators are dropped, and no other character has one for its small or capital form.
theorem joined_of_mem_camelFrom (h : ∀ c ∈ cs, Text.isAscii c = true) (atStart raise isEmpty : Bool) :
    ∀ c ∈ camelFrom atStart raise isEmpty cs, Text.isAscii c = true ∧ isSeparator c = false := by
  induction cs generalizing atStart raise isEmpty with
  | nil => simp [camelFrom]
  | cons c rest ih =>
      obtain ⟨hc, hrest⟩ := List.forall_mem_cons.mp h
      cases hseparator : isSeparator c with
      | true =>
          rw [camelFrom_separator hseparator]
          exact ih hrest _ _ _
      | false =>
          obtain ⟨hlower, hupper⟩ := Text.forms_of_letters
            (P := fun c => Text.isAscii c = true ∧ isSeparator c = false)
            (fun c hc => ⟨Text.isAscii_of_isAlpha c hc, not_isSeparator_of_isAlpha c hc⟩) ⟨hc, hseparator⟩
          rw [camelFrom_other hseparator, Text.upper_of_isAscii hc, Text.lower_of_isAscii hc,
            List.forall_mem_append]
          refine ⟨?_, ih hrest _ _ _⟩
          cases raise <;> cases isEmpty <;> simp [hc, hseparator, hlower, hupper]

-- Of the separators in front only the number counts.
theorem camelFrom_dropWhile (raise : Bool) (cs : List Char) :
    camelFrom false raise true cs =
      camelFrom false (raise || decide (0 < (cs.takeWhile isSeparator).length)) true
        (cs.dropWhile isSeparator) := by
  induction cs generalizing raise with
  | nil => rfl
  | cons c rest ih =>
      cases hc : isSeparator c with
      | true =>
          rw [camelFrom_separator hc, Bool.not_false, ih]
          simp [hc]
      | false => simp [hc]

-- The first separator raises nothing, for it has nothing in front.
theorem camelFrom_start (cs : List Char) :
    camelFrom true false true cs =
      camelFrom false (decide (1 < (cs.takeWhile isSeparator).length)) true (cs.dropWhile isSeparator) := by
  cases cs with
  | nil => rfl
  | cons c rest =>
      cases hc : isSeparator c with
      | true =>
          rw [camelFrom_separator hc, Bool.not_true, camelFrom_dropWhile]
          simp [hc]
      | false => simp [hc, camelFrom_other hc]

theorem head?_camelFrom (h : ∀ c ∈ cs, Text.isAscii c = true) :
    (camelFrom true false true cs).head? =
      (cs.dropWhile isSeparator).head?.map
        (if 1 < (cs.takeWhile isSeparator).length then Char.toUpper else Char.toLower) := by
  rw [camelFrom_start]
  cases hrest : cs.dropWhile isSeparator with
  | nil => rfl
  | cons first rest =>
      have hfirst : Text.isAscii first = true :=
        h first ((List.dropWhile_sublist isSeparator).subset (hrest ▸ List.mem_cons_self))
      have hother : isSeparator first = false := by
        have hhead := List.head?_dropWhile_not isSeparator cs
        simpa [hrest] using hhead
      rw [camelFrom_other hother, Text.upper_of_isAscii hfirst, Text.lower_of_isAscii hfirst]
      by_cases hraise : 1 < (cs.takeWhile isSeparator).length <;> simp [hraise]

theorem toList_apply_lowercase (hkey : Text.AllAscii key) :
    (lowercase.apply key).toList = key.toList.map Char.toLower := by
  simp [apply, Text.lowercased_of_allAscii hkey, Text.asciiLowercase]

theorem toList_apply_snakeCase (key : String) : (snakeCase.apply key).toList = snakeFrom false key.toList :=
  String.toList_ofList

theorem toList_apply_camelCase (key : String) :
    (camelCase.apply key).toList = camelFrom true false true key.toList :=
  String.toList_ofList

theorem small_of_mem_apply (hkey : Text.AllAscii key) (hc : c ∈ (snakeCase.apply key).toList) :
    Text.isAscii c = true ∧ c.isUpper = false := by
  rw [toList_apply_snakeCase] at hc
  exact small_of_mem_snakeFrom hkey false c hc

theorem joined_of_mem_apply (hkey : Text.AllAscii key) (hc : c ∈ (camelCase.apply key).toList) :
    Text.isAscii c = true ∧ isSeparator c = false := by
  rw [toList_apply_camelCase] at hc
  exact joined_of_mem_camelFrom hkey true false true c hc

theorem allAscii_apply (naming : FieldNaming) (hkey : Text.AllAscii key) : Text.AllAscii (naming.apply key) := by
  intro c hc
  cases naming with
  | asIs => exact hkey c hc
  | lowercase =>
      rw [toList_apply_lowercase hkey] at hc
      obtain ⟨source, hsource, rfl⟩ := List.mem_map.mp hc
      exact (Text.isAscii_forms (hkey source hsource)).1
  | snakeCase => exact (small_of_mem_apply hkey hc).1
  | camelCase => exact (joined_of_mem_apply hkey hc).1

theorem settlesAtOnce_apply (naming : FieldNaming) (hkey : Text.AllAscii key) :
    naming.SettlesAtOnce (naming.apply key) := by
  rintro rfl
  have hnone : (camelCase.apply key).toList.takeWhile isSeparator = [] := by
    rw [List.takeWhile_eq_nil_iff]
    intro hlength hfirst
    simp [(joined_of_mem_apply hkey (List.getElem_mem hlength)).2] at hfirst
  simp [raisesFirst, hnone]

theorem follows_apply_iff (naming : FieldNaming) (hkey : Text.AllAscii key) :
    naming.Follows (naming.apply key) ↔ naming.SettlesAtOnce key := by
  cases naming with
  | asIs => simp [Follows, SettlesAtOnce]
  | lowercase => simp [Follows, SettlesAtOnce, toList_apply_lowercase hkey]
  | snakeCase =>
      have hsmall : snakeCase.Follows (snakeCase.apply key) := fun c hc => (small_of_mem_apply hkey hc).2
      simp [hsmall, SettlesAtOnce]
  | camelCase =>
      have hjoined : ∀ c ∈ (camelCase.apply key).toList, isSeparator c = false :=
        fun c hc => (joined_of_mem_apply hkey hc).2
      have hfirst : (∀ c ∈ (camelCase.apply key).toList.head?, c.isUpper = false) ↔ raisesFirst key = false := by
        rw [toList_apply_camelCase, head?_camelFrom hkey, raisesFirst]
        cases (key.toList.dropWhile isSeparator).head? <;>
          by_cases hraise : 1 < (key.toList.takeWhile isSeparator).length <;> simp [hraise]
      simp only [Follows, SettlesAtOnce, true_implies]
      exact (and_iff_right hjoined).trans hfirst

theorem apply_of_follows (hkey : Text.AllAscii key) (h : naming.Follows key) : naming.apply key = key := by
  rw [← String.toList_inj]
  cases naming with
  | asIs => rfl
  | lowercase => rw [toList_apply_lowercase hkey, map_toLower_of_no_capital h]
  | snakeCase =>
      rw [toList_apply_snakeCase]
      exact snakeFrom_of_no_capital (fun c hc => (Text.isUppercase_of_isAscii (hkey c hc)).trans (h c hc)) false
  | camelCase =>
      obtain ⟨hjoined, hfirst⟩ := h
      rw [toList_apply_camelCase]
      cases hcs : key.toList with
      | nil => rfl
      | cons first rest =>
          obtain ⟨hfirstJoined, hrest⟩ := List.forall_mem_cons.mp (hcs ▸ hjoined)
          have hascii : Text.isAscii first = true := hkey first (hcs ▸ List.mem_cons_self)
          have hsmall : first.isUpper = false := hfirst first (by simp [hcs])
          rw [camelFrom_other hfirstJoined, camelFrom_of_no_separator hrest, Text.lower_of_isAscii hascii,
            Char.toLower_eq_of_not_isUpper (by simp [hsmall])]
          rfl

-- A key that stays is what the convention makes of it, and that is settled at once.
theorem apply_eq_self_iff (naming : FieldNaming) (hkey : Text.AllAscii key) :
    naming.apply key = key ↔ naming.Follows key := by
  refine ⟨fun h => ?_, apply_of_follows hkey⟩
  have hsettles : naming.SettlesAtOnce key := h ▸ settlesAtOnce_apply naming hkey
  exact h ▸ (follows_apply_iff naming hkey).mpr hsettles

theorem apply_apply_iff (naming : FieldNaming) (hkey : Text.AllAscii key) :
    naming.apply (naming.apply key) = naming.apply key ↔ naming.SettlesAtOnce key :=
  (apply_eq_self_iff naming (allAscii_apply naming hkey)).trans (follows_apply_iff naming hkey)

theorem renameKeys_of_names_stay (hd : d.Distinct)
    (h : ∀ name ∈ OrderedMap.keys d, naming.converted name = name) : naming.renameKeys d = d := by
  have hnames : (d.map fun field => naming.converted field.1) = OrderedMap.keys d :=
    List.map_congr_left fun field hfield => h field.1 (List.mem_map_of_mem hfield)
  have hfields : (d.map fun field => (naming.converted field.1, field.2)) = d.map id :=
    List.map_congr_left fun field hfield => by simp [h field.1 (List.mem_map_of_mem hfield)]
  rw [renameKeys_of_nodup hd (hnames ▸ hd), hfields, List.map_id]

-- Names that stay the same together are as many as before, so no two of them have become one.
theorem keys_renameKeys_eq_iff (naming : FieldNaming) (hd : d.Distinct) :
    OrderedMap.keys (naming.renameKeys d) = OrderedMap.keys d ↔
      ∀ name ∈ OrderedMap.keys d, naming.converted name = name := by
  refine ⟨fun h => ?_, fun h => by rw [renameKeys_of_names_stay hd h]⟩
  have hlength : (naming.renameKeys d).length = d.length := by
    simpa [OrderedMap.length_keys] using congrArg List.length h
  have hrenamed := renameKeys_of_nodup hd (nodup_of_length_renameKeys hd hlength)
  simpa [hrenamed, OrderedMap.keys] using h

theorem converted_converted_iff (naming : FieldNaming) (hkey : Text.AllAscii key) :
    naming.converted (naming.converted key) = naming.converted key ↔ naming.SettlesAtOnce key := by
  by_cases hid : key = "_id"
  · have hsettles : naming.SettlesAtOnce "_id" := fun _ => by decide
    simp [hid, hsettles]
  · rw [converted_of_ne hid]
    by_cases hname : naming.apply key = "_id"
    · have hsettles : naming.SettlesAtOnce key := by
        rintro rfl
        have hjoined := (joined_of_mem_apply hkey (c := '_') (by simp [hname])).2
        simp [isSeparator] at hjoined
      simp [hname, hsettles]
    · rw [converted_of_ne hname, apply_apply_iff naming hkey]

theorem WrittenUnder.names_stay_iff (h : naming.WrittenUnder written d)
    (hwritten : ∀ key ∈ written, Text.AllAscii key) :
    (∀ name ∈ OrderedMap.keys d, naming.converted name = name) ↔ ∀ key ∈ written, naming.SettlesAtOnce key := by
  constructor
  · intro hstay key hkey
    rw [← converted_converted_iff naming (hwritten key hkey)]
    by_cases hid : naming.converted key = "_id"
    · rw [hid, converted_id]
    · exact hstay _ ((h.names _ hid).mpr (List.mem_map_of_mem hkey))
  · intro hsettle name hname
    by_cases hid : name = "_id"
    · rw [hid, converted_id]
    · obtain ⟨key, hkey, rfl⟩ := List.mem_map.mp ((h.names name hid).mp hname)
      exact (converted_converted_iff naming (hwritten key hkey)).mpr (hsettle key hkey)

-- Neither the store nor the reading of a document changes the names that it was written under.
theorem writtenUnder_stored (naming : FieldNaming) (hd : d.Distinct) (id : Option Value) (fresh : ObjectId) :
    naming.WrittenUnder (OrderedMap.keys d)
      (Record.coerceDates ((naming.renameKeys d).withId id fresh)) := by
  have hnames : OrderedMap.keys (Record.coerceDates ((naming.renameKeys d).withId id fresh)) =
      "_id" :: (OrderedMap.keys (naming.renameKeys d)).filter (· != "_id") := by
    simp [OrderedMap.keys, Record.coerceDates, Document.withId, List.filter_map, Function.comp_def]
  refine ⟨?_, fun name hname => ?_⟩
  · rw [OrderedMap.Distinct, hnames, List.nodup_cons]
    exact ⟨by simp, (distinct_renameKeys naming hd).filter _⟩
  · rw [hnames, ← mem_keys_renameKeys_iff naming hd]
    simp [hname]

end

-- An ASCII key stays the same once it has been converted, unless it begins with more than one separator and a
-- letter and the convention is camel case; then it does so once it has been converted twice. A document that
-- was written under ASCII keys keeps its field names when it is written again exactly if each of the keys is
-- settled at once, and then it is what it was.
theorem conversions_settle (naming : FieldNaming) :
    (∀ key, Text.AllAscii key →
      (naming.apply (naming.apply key) = naming.apply key ↔ naming.SettlesAtOnce key) ∧
        naming.apply (naming.apply (naming.apply key)) = naming.apply (naming.apply key)) ∧
      ∀ (written : List String) (d : Document), (∀ key ∈ written, Text.AllAscii key) →
        naming.WrittenUnder written d →
          (OrderedMap.keys (naming.renameKeys d) = OrderedMap.keys d ↔
            ∀ key ∈ written, naming.SettlesAtOnce key) ∧
          ((∀ key ∈ written, naming.SettlesAtOnce key) → naming.renameKeys d = d) := by
  refine ⟨fun key hkey => ⟨apply_apply_iff naming hkey, ?_⟩, fun written d hwritten h => ⟨?_, ?_⟩⟩
  · exact (apply_apply_iff naming (allAscii_apply naming hkey)).mpr (settlesAtOnce_apply naming hkey)
  · exact (keys_renameKeys_eq_iff naming h.distinct).trans (h.names_stay_iff hwritten)
  · exact fun hsettle => renameKeys_of_names_stay h.distinct ((h.names_stay_iff hwritten).mpr hsettle)

def lodger : Document := [("_first-name", .string "ada"), ("moved_IN", .string "2024-03-01T10:20:30Z")]

-- The letter of one key is raised, and settled when it is converted again; the document stays as it is.
theorem conversions_settle_lodger :
    let stored := Record.coerceDates ((camelCase.renameKeys lodger).withId none (.generated 0))
    Text.AllAscii "__home-town" ∧ (∀ key ∈ OrderedMap.keys lodger, Text.AllAscii key) ∧
      camelCase.WrittenUnder (OrderedMap.keys lodger) stored ∧
      camelCase.apply (camelCase.apply "__home-town") ≠ camelCase.apply "__home-town" ∧
      camelCase.renameKeys stored = stored := by
  intro stored
  have hkey : Text.AllAscii "__home-town" := by decide
  have hwritten : ∀ key ∈ OrderedMap.keys lodger, Text.AllAscii key := by decide
  have hd : OrderedMap.Distinct lodger := by simp [lodger, OrderedMap.Distinct, OrderedMap.keys]
  have hstored : camelCase.WrittenUnder (OrderedMap.keys lodger) stored :=
    writtenUnder_stored camelCase hd none (.generated 0)
  obtain ⟨hkeys, hdocuments⟩ := conversions_settle camelCase
  refine ⟨hkey, hwritten, hstored, fun hsettled => ?_, ?_⟩
  · exact absurd ((hkeys _ hkey).1.mp hsettled rfl) (by decide)
  · exact (hdocuments _ stored hwritten hstored).2 (by decide +kernel)

-- Of two hyphens or underscores in front the second raises the letter, which is small again the next time.
theorem conversion_not_idempotent :
    ¬ ∀ (naming : FieldNaming) (key : String),
      (∀ c ∈ key.toList, c.isAlphanum = true ∨ c = '_' ∨ c = '-') →
        naming.apply (naming.apply key) = naming.apply key := by
  intro h
  have hraised : camelCase.apply "__a" = "A" := by decide
  have hagain : camelCase.apply "A" = "a" := by decide
  have hsettled := h camelCase "__a" (by simp)
  rw [hraised, hagain] at hsettled
  exact absurd hsettled (by decide)

end FieldNaming

end DocStore
