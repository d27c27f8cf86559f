import DocStore.Proofs.Outcome
import DocStore.Proofs.Selector.Logical
import DocStore.Proofs.Value.Depth

namespace DocStore.Selector

section Test

variable {x y : Document} {arg : Value}

theorem equals_of_depth_lt (hx : arg.depth < (Value.document x).depth) :
    equals (some (.document x)) arg = false := by
  have hsame : (Value.document x).same arg = false := by
    refine Bool.eq_false_iff.mpr fun h => ?_
    exact absurd (Value.depth_le_of_same h) (Nat.not_le.mpr hx)
  simp [equals, equalValues, Value.isNumber, hsame]

theorem compares_document (wanted : Ordering → Bool) (x y : Document) (arg : Value) :
    compares wanted (some (.document x)) arg = compares wanted (some (.document y)) arg := by
  cases arg <;> rfl

theorem hasSize_document (x : Document) (size : Value) : hasSize (some (.document x)) size = false := by
  unfold hasSize
  cases size.toWhole? <;> rfl

variable {set : List Value}

theorem equals_item_of_depth_lt (hx : (Value.array set).depth < (Value.document x).depth) :
    ∀ item ∈ set, equals (some (.document x)) item = false :=
  fun _ hitem => equals_of_depth_lt (Nat.lt_trans (Value.depth_lt_of_mem_items hitem) hx)

theorem isIn_of_depth_lt (hx : (Value.array set).depth < (Value.document x).depth) :
    isIn (some (.document x)) set = false := by
  rw [isIn, List.any_eq_false]
  exact fun item hitem => by simp [equals_item_of_depth_lt hx item hitem]

theorem all_equals_of_depth_lt (hx : (Value.array set).depth < (Value.document x).depth) :
    set.all (equals (some (.document x))) = set.isEmpty := by
  cases set with
  | nil => rfl
  | cons item rest => simp [equals_item_of_depth_lt hx item List.mem_cons_self]

theorem arrayOf_eq_ok {op : String} (h : arrayOf op arg = .ok set) : arg = .array set := by
  cases arg with
  | array items =>
      cases h
      rfl
  | _ => cases h

theorem setOf_eq_ok {op : String} (h : setOf op arg = .ok set) : arg = .array set := by
  obtain ⟨items, hitems, hchecked⟩ := Except.bind_eq_ok_iff.mp h
  by_cases hlarge : maxSet < items.length
  · rw [if_pos hlarge] at hchecked
    cases hchecked
  · rw [if_neg hlarge] at hchecked
    cases hchecked
    exact arrayOf_eq_ok hitems

end Test

variable {x y : Document}

-- No single operator tells the two documents apart.
theorem plainOperator_of_depth_lt {arg : Value} (options op : String)
    (hx : arg.depth < (Value.document x).depth) (hy : arg.depth < (Value.document y).depth) :
    plainOperator (some (.document x)) options op arg =
      plainOperator (some (.document y)) options op arg := by
  have hequals : equals (some (.document x)) arg = equals (some (.document y)) arg := by
    rw [equals_of_depth_lt hx, equals_of_depth_lt hy]
  have hliteral : literal (some (.document x)) arg = literal (some (.document y)) arg := by
    cases arg with
    | regex pattern options => rfl
    | _ => exact congrArg Except.ok hequals
  -- the sets and lists that operators take are as deep as the argument
  have hset : ∀ set, setOf op arg = .ok set →
      isIn (some (.document x)) set = isIn (some (.document y)) set := by
    intro set h
    obtain rfl := setOf_eq_ok h
    rw [isIn_of_depth_lt hx, isIn_of_depth_lt hy]
  have hin : (setOf op arg).map (isIn (some (.document x))) =
      (setOf op arg).map (isIn (some (.document y))) := Except.map_congr_of_ok hset
  have hnotIn : ((setOf op arg).map fun set => !isIn (some (.document x)) set) =
      (setOf op arg).map fun set => !isIn (some (.document y)) set :=
    Except.map_congr_of_ok fun set h => congrArg (!·) (hset set h)
  have hall : ((arrayOf op arg).map fun wanted => wanted.all (equals (some (.document x)))) =
      (arrayOf op arg).map fun wanted => wanted.all (equals (some (.document y))) := by
    refine Except.map_congr_of_ok fun wanted h => ?_
    obtain rfl := arrayOf_eq_ok h
    rw [all_equals_of_depth_lt hx, all_equals_of_depth_lt hy]
  unfold plainOperator
  simp only [hequals, hliteral, hin, hnotIn, hall, compares_document _ x y arg, hasSize_document]
  rfl

theorem operators_congr {v w : Option Value} {options : String} {fields : List (String × Value)}
    (h : ∀ field ∈ fields, operator v options field.1 field.2 = operator w options field.1 field.2) :
    operators v options fields = operators w options fields := by
  induction fields with
  | nil => rfl
  | cons field rest ih =>
      obtain ⟨op, arg⟩ := field
      obtain ⟨hfirst, hrest⟩ := List.forall_mem_cons.mp h
      simp only [operators, hfirst, ih hrest]

theorem operator_of_depth_lt {arg : Value} (options op : String)
    (hx : arg.depth < (Value.document x).depth) (hy : arg.depth < (Value.document y).depth) :
    operator (some (.document x)) options op arg = operator (some (.document y)) options op arg := by
  have hplain := plainOperator_of_depth_lt options op hx hy
  induction arg using Value.tree_induction generalizing options op with
  | leaf v hv =>
      cases v with
      | array _ => cases hv
      | document _ => cases hv
      | codeWithScope _ _ => cases hv
      | _ => exact hplain
  | array items => exact hplain
  | codeWithScope source scope => exact hplain
  | document fields ih =>
      -- operators within operators: their arguments are of still less depth
      have hfields : ∀ options, operators (some (.document x)) options fields =
          operators (some (.document y)) options fields := fun options =>
        operators_congr fun field hfield => by
          have hbelow := Value.depth_lt_of_mem_fields hfield
          have hx' := Nat.lt_trans hbelow hx
          have hy' := Nat.lt_trans hbelow hy
          exact ih field hfield options field.1 hx' hy' (plainOperator_of_depth_lt options field.1 hx' hy')
      have hequals : equals (some (.document x)) (.document fields) =
          equals (some (.document y)) (.document fields) := by
        rw [equals_of_depth_lt hx, equals_of_depth_lt hy]
      simp only [operator, hfields, hequals, hplain]

-- What is said in operators of a document deeper than they are, they say of
-- every such document.
theorem operators_of_depth_lt {fields : List (String × Value)} (options : String)
    (hx : (Value.document fields).depth ≤ (Value.document x).depth)
    (hy : (Value.document fields).depth ≤ (Value.document y).depth) :
    operators (some (.document x)) options fields = operators (some (.document y)) options fields :=
  operators_congr fun field hfield => by
    have hbelow := Value.depth_lt_of_mem_fields hfield
    exact operator_of_depth_lt options field.1 (Nat.lt_of_lt_of_le hbelow hx) (Nat.lt_of_lt_of_le hbelow hy)

end DocStore.Selector
