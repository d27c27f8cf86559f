import DocStore.Proofs.Filter.Truth
import DocStore.Proofs.Selector.Depth
import DocStore.Proofs.Value.Order
import DocStore.Proofs.Value.Path

namespace DocStore

-- Whether the value means itself when it stands as a condition.
def Value.isData : Value → Bool
  | .regex _ _ => false
  | .document fields => !Document.isOperator fields
  | _ => true

namespace Selector

theorem condition_of_isData {v : Value} (h : v.isData = true) (found : Option Value) :
    condition found v = .ok (equals found v) := by
  cases v with
  | regex pattern options => cases h
  | document fields =>
      have hplain : Document.isOperator fields = false := by simpa [Value.isData] using h
      simp [condition, hplain]
  | _ => rfl

theorem equalValues_self {v : Value} (hsame : v.same v = true) : equalValues v v = true := by
  unfold equalValues
  split
  · rw [Value.order_self]
    rfl
  · exact hsame

theorem equals_self {v : Value} (hsame : v.same v = true) : equals (some v) v = true := by
  have hself := equalValues_self hsame
  cases v with
  | array items => simp [equals, hself]
  | _ => exact hself

-- A regular expression is not a text that fits its pattern.
theorem condition_regex_self (pattern options : String) :
    condition (some (.regex pattern options)) (.regex pattern options) ≠ .ok true := by
  simp only [condition, literal, fitsRegex]
  cases Regex.ofPattern (modeOf options) pattern with
  | error e =>
      intro h
      cases h
  | ok r =>
      intro h
      cases h

-- The operators may hold of the document that they are written in. Then they also
-- hold of one that has it as a field, and this one is not equal to it.
theorem exists_condition_ne_equals {v : Value} (hdata : v.isData = false) (hsame : v.same v = true) :
    ∃ w : Value, condition (some w) v ≠ .ok (equals (some w) v) := by
  by_cases hself : condition (some v) v = .ok true
  · cases v with
    | regex pattern options => exact absurd hself (condition_regex_self pattern options)
    | document fields =>
        have hoperator : Document.isOperator fields = true := by simpa [Value.isData] using hdata
        let outer : Document := [("", .document fields)]
        have hdeeper : (Value.document fields).depth < (Value.document outer).depth :=
          Value.depth_lt_of_mem_fields (List.mem_singleton_self ("", Value.document fields))
        have hagree : operators (some (.document outer)) (optionsOf fields) fields =
            operators (some (.document fields)) (optionsOf fields) fields :=
          operators_of_depth_lt _ (Nat.le_of_lt hdeeper) (Nat.le_refl _)
        refine ⟨.document outer, ?_⟩
        simp only [condition, hoperator, if_true] at hself ⊢
        rw [hagree, hself, equals_of_depth_lt hdeeper]
        intro h
        cases h
    | _ => cases hdata
  · refine ⟨v, ?_⟩
    rw [equals_self hsame]
    exact hself

theorem negated_eq_ok_iff {r : Except StoreError Bool} {b : Bool} :
    negated r = .ok (!b) ↔ r = .ok b := by
  rcases r with e | own
  · exact ⟨fun h => (nomatch h), fun h => (nomatch h)⟩
  · cases own <;> cases b <;> simp [negated, Except.map]

end Selector

namespace Filter

-- Whether the filter has a query document, and this one answers so about the
-- document.
def Answers (policy : CompositePolicy) (f : Filter) (d : Document) (r : Except StoreError Bool) : Prop :=
  ∃ q, f.compile policy = .ok q ∧ Selector.holds d q = r

-- Whether looking for the value at the path asks if the two are equal, and both
-- ways of denying it ask if they are not.
structure MeansEqual (policy : CompositePolicy) (path : String) (v : Value) (d : Document) : Prop where
  equal : (Filter.field path (.equal v)).Answers policy d (.ok (Selector.equals (d.getPath? path) v))
  unequal : (Filter.field path (.notEqual v)).Answers policy d
    (.ok (!Selector.equals (d.getPath? path) v))
  negated : (Filter.not [.field path (.equal v)]).Answers policy d
    (.ok (!Selector.equals (d.getPath? path) v))

section

variable {policy : CompositePolicy} {path : String} (hpath : Text.startsWithChar '$' path = false)

include hpath

theorem answers_equal_iff {v : Value} {d : Document} {r : Except StoreError Bool} :
    (Filter.field path (.equal v)).Answers policy d r ↔ Selector.condition (d.getPath? path) v = r := by
  have hcompile : (Filter.field path (.equal v)).compile policy = .ok [(path, v)] := rfl
  have hholds : Selector.holds d [(path, v)] = Selector.condition (d.getPath? path) v := by
    rw [Selector.holds_of_path hpath]
  simp [Answers, hcompile, hholds]

theorem answers_notEqual (v : Value) (d : Document) :
    (Filter.field path (.notEqual v)).Answers policy d (.ok (!Selector.equals (d.getPath? path) v)) := by
  refine ⟨operatorOn path "$ne" v, rfl, ?_⟩
  have hop : Document.isOperator [("$ne", v)] = true := rfl
  rw [operatorOn, Selector.holds_of_path hpath,
    Selector.condition, if_pos hop, Selector.operators_singleton]
  cases v <;> rfl

theorem answers_not_equal_iff {v : Value} {d : Document} {r : Except StoreError Bool} :
    (Filter.not [.field path (.equal v)]).Answers policy d r ↔
      Selector.negated (Selector.condition (d.getPath? path) v) = r := by
  have hcompile : (Filter.not [.field path (.equal v)]).compile policy =
      .ok (negation (some path) [(path, v)]) := rfl
  simp [Answers, hcompile, holds_negation_of_path hpath]

-- To look for a value that means itself is to ask whether the two are equal. Any
-- other value that is equal to itself gives some document a wrong answer, the
-- filter and its negation alike. To look for what is not equal always does as it says.
theorem equality_answers (v : Value) :
    (∀ d, (Filter.field path (.notEqual v)).Answers policy d
      (.ok (!Selector.equals (d.getPath? path) v))) ∧
    (v.isData = true → ∀ d, MeansEqual policy path v d) ∧
    (v.isData = false → v.same v = true → Path.Readable path → ∃ d : Document,
      ¬ (Filter.field path (.equal v)).Answers policy d (.ok (Selector.equals (d.getPath? path) v)) ∧
      ¬ (Filter.not [.field path (.equal v)]).Answers policy d
        (.ok (!Selector.equals (d.getPath? path) v))) := by
  refine ⟨answers_notEqual hpath v, fun hdata d => ?_, fun hdata hsame hreadable => ?_⟩
  · have hcondition := Selector.condition_of_isData hdata (d.getPath? path)
    have hnegated := Selector.negated_eq_ok_iff.mpr hcondition
    exact ⟨(answers_equal_iff hpath).mpr hcondition, answers_notEqual hpath v d,
      (answers_not_equal_iff hpath).mpr hnegated⟩
  · obtain ⟨w, hw⟩ := Selector.exists_condition_ne_equals hdata hsame
    -- the value that shows the difference is put where the filter looks
    let d : Document := (Document.setPath [] path w).1
    have hd : d.getPath? path = some w := Document.getPath?_setPath hreadable [] w
    refine ⟨d, fun h => ?_, fun h => ?_⟩
    · have hcondition := (answers_equal_iff hpath).mp h
      rw [hd] at hcondition
      exact hw hcondition
    · have hcondition := Selector.negated_eq_ok_iff.mp ((answers_not_equal_iff hpath).mp h)
      rw [hd] at hcondition
      exact hw hcondition

end

def moreThanFive : Value := .document [("$gt", .int32 5)]

-- A document with a plain key is looked for as it is, one with an operator is not.
theorem equality_answers_moreThanFive :
    MeansEqual .strict "a" (.document [("gt", .int32 5)]) [("a", .document [("gt", .int32 5)])] ∧
      ∃ d : Document, ¬ MeansEqual .strict "a" moreThanFive d := by
  obtain ⟨_, hplain, _⟩ := @equality_answers .strict "a" rfl (.document [("gt", .int32 5)])
  obtain ⟨_, _, hoperator⟩ := @equality_answers .strict "a" rfl moreThanFive
  obtain ⟨d, hd, _⟩ := hoperator rfl rfl ⟨rfl, by decide, by decide⟩
  exact ⟨hplain rfl _, d, fun h => hd h.equal⟩

-- 7 is more than 5, and equal to no document.
theorem equal_runs_operators : ¬ MeansEqual .strict "a" moreThanFive [("a", .int32 7)] := by
  intro h
  obtain ⟨q, hq, hholds⟩ := h.equal
  cases hq
  exact absurd (show Except.ok true = Except.ok false from hholds) (by simp)

end Filter

end DocStore
