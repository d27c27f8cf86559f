import DocStore.Filter.Spec
import DocStore.Proofs.Filter.Compile
import Mathlib.Data.List.Forall2

namespace DocStore

-- Reasons are kept without loss where the fault lies in how the query is written.
theorem DbError.toError_toRejection {e : DbError} (h : e.isMalformed = true) : e.toRejection.toError = e := by
  cases e with
  | malformed cause => rfl
  | unknownOperator name => rfl
  | _ => cases h

namespace Filter

variable {spec : FilterSpec} {specs : List FilterSpec} {e : DbError}

theorem isMalformed_of_listOf {op : FilterOp} {v : Value} (h : listOf op v = .error e) : e.isMalformed = true := by
  cases v with
  | array items => cases h
  | _ =>
      cases h
      rfl

theorem isMalformed_of_boundsOf {v : Value} (h : boundsOf v = .error e) : e.isMalformed = true := by
  unfold boundsOf at h
  cases hlist : listOf .range v with
  | error own =>
      rw [hlist] at h
      cases h
      exact isMalformed_of_listOf hlist
  | ok bounds =>
      rw [hlist] at h
      rcases bounds with _ | ⟨low, _ | ⟨high, _ | ⟨third, rest⟩⟩⟩
      case cons.cons.nil => cases h
      all_goals
        cases h
        rfl

-- Reading fails only for the way in which the filter is written.
theorem isMalformed_of_ofSpec (h : ofSpec spec = .error e) : e.isMalformed = true := by
  obtain ⟨name, path, value, items⟩ := spec
  unfold ofSpec at h
  cases hop : FilterOp.ofName? name with
  | none =>
      rw [hop] at h
      cases h
      rfl
  | some op =>
      rw [hop] at h
      cases op with
      | range => exact isMalformed_of_boundsOf (Except.map_eq_error_iff.mp h)
      | oneOf => exact isMalformed_of_listOf (Except.map_eq_error_iff.mp h)
      | noneOf => exact isMalformed_of_listOf (Except.map_eq_error_iff.mp h)
      | text =>
          cases value with
          | string search => cases h
          | _ =>
              cases h
              rfl
      | _ => cases h

-- What a written item becomes in the composite that holds it.
def ofItem (spec : FilterSpec) : Filter :=
  match ofSpec spec with
  | .ok f => f
  | .error e => .invalid e.toRejection

-- What a written item comes to by itself: it is read and then compiled.
def compileSpec (policy : CompositePolicy) (spec : FilterSpec) : Except DbError Document :=
  ofSpec spec >>= compile policy

theorem ofSpecs_cons (spec : FilterSpec) (rest : List FilterSpec) :
    ofSpecs (spec :: rest) = ofItem spec :: ofSpecs rest := by
  cases hspec : ofSpec spec with
  | ok f => simp only [ofSpecs, ofItem, hspec]
  | error e => simp only [ofSpecs, ofItem, hspec]

theorem ofSpecs_eq_map (specs : List FilterSpec) : ofSpecs specs = specs.map ofItem := by
  induction specs with
  | nil => rfl
  | cons spec rest ih => rw [ofSpecs_cons, ih, List.map_cons]

-- Within the composite an item fails as it does by itself, also where it could not be read.
theorem compile_ofItem (policy : CompositePolicy) (spec : FilterSpec) :
    (ofItem spec).compile policy = compileSpec policy spec := by
  unfold ofItem compileSpec
  cases hspec : ofSpec spec with
  | ok f => rfl
  | error e =>
      show Except.error e.toRejection.toError = Except.error e
      rw [DbError.toError_toRejection (isMalformed_of_ofSpec hspec)]

-- Whether a failure is that of the first member that fails.
def FailsFirst {α β ε : Type} (f : α → Except ε β) (e : ε) (xs : List α) : Prop :=
  ∃ before x after, xs = before ++ x :: after ∧ (∀ y ∈ before, ∃ b, f y = .ok b) ∧ f x = .error e

theorem failsFirst_cons_iff {α β ε : Type} {f : α → Except ε β} {e : ε} {x : α} {xs : List α} :
    FailsFirst f e (x :: xs) ↔ f x = .error e ∨ (∃ b, f x = .ok b) ∧ FailsFirst f e xs := by
  constructor
  · rintro ⟨before, failing, after, heq, hbefore, hfails⟩
    cases before with
    | nil =>
        obtain ⟨rfl, rfl⟩ := List.cons.inj heq
        exact .inl hfails
    | cons first more =>
        obtain ⟨rfl, rfl⟩ := List.cons.inj heq
        obtain ⟨hfirst, hmore⟩ := List.forall_mem_cons.mp hbefore
        exact .inr ⟨hfirst, more, failing, after, rfl, hmore, hfails⟩
  · rintro (hfails | ⟨hfirst, before, failing, after, rfl, hbefore, hfails⟩)
    · exact ⟨[], x, xs, rfl, by simp, hfails⟩
    · exact ⟨x :: before, failing, after, rfl, List.forall_mem_cons.mpr ⟨hfirst, hbefore⟩, hfails⟩

-- The strict policy fails with the first item that fails by itself.
theorem compileItems_ofSpecs_eq_error_iff :
    compileItems .strict (ofSpecs specs) = .error e ↔ FailsFirst (compileSpec .strict) e specs := by
  induction specs with
  | nil => simp [ofSpecs, compileItems, FailsFirst]
  | cons spec rest ih =>
      rw [failsFirst_cons_iff, ← ih, ofSpecs_cons, compileItems, compile_ofItem]
      cases compileSpec .strict spec with
      | error own => simp
      | ok q => cases compileItems .strict (ofSpecs rest) <;> simp

theorem compileItems_ofSpecs_eq_ok_iff {clauses : List Value} :
    compileItems .strict (ofSpecs specs) = .ok clauses ↔
      ∃ qs : List Document, List.Forall₂ (fun spec q => compileSpec .strict spec = .ok q) specs qs ∧
        clauses = qs.map .document := by
  induction specs generalizing clauses with
  | nil => simp [ofSpecs, compileItems, eq_comm]
  | cons spec rest ih =>
      constructor
      · intro h
        rw [ofSpecs_cons] at h
        obtain ⟨q, tail, hq, htail, rfl⟩ := compileItems_strict_cons h
        obtain ⟨qs, hqs, rfl⟩ := ih.mp htail
        rw [compile_ofItem] at hq
        exact ⟨q :: qs, .cons hq hqs, rfl⟩
      · rintro ⟨qs, hqs, rfl⟩
        cases hqs with
        | @cons _ q _ others hq hothers =>
            have htail := ih.mpr ⟨others, hothers, rfl⟩
            simp only [ofSpecs_cons, compileItems, compile_ofItem, hq, htail, List.map_cons]

-- The permissive policy leaves out the items that fail by themselves.
theorem compileItems_permissive_ofSpecs (specs : List FilterSpec) :
    compileItems .permissive (ofSpecs specs) =
      .ok ((specs.filterMap fun spec => (compileSpec .permissive spec).toOption).map .document) := by
  induction specs with
  | nil => rfl
  | cons spec rest ih =>
      rw [ofSpecs_cons, compileItems, compile_ofItem, ih]
      cases hspec : compileSpec .permissive spec with
      | ok q => simp [hspec, Except.toOption]
      | error own => simp [hspec, Except.toOption]

-- A composite with its clauses.
def compositeOf (op : FilterOp) (qs : List Document) : Document := [(op.name, .array (qs.map .document))]

-- Both composites are read whatever their items are, and compiled by compiling these.
theorem ofSpec_composite {op : FilterOp} (hop : FilterOp.ofName? spec.op = some op)
    (hcomposite : op = .and ∨ op = .or) :
    ∃ f, ofSpec spec = .ok f ∧ f.op? = some op ∧ f.items = ofSpecs spec.items ∧
      ∀ policy, f.compile policy =
        (compileItems policy (ofSpecs spec.items)).map fun clauses => [(op.name, .array clauses)] := by
  obtain ⟨name, path, value, items⟩ := spec
  rcases hcomposite with rfl | rfl
  · refine ⟨.and (ofSpecs items), ?_, rfl, rfl, fun policy => ?_⟩
    · unfold ofSpec
      simp only [hop]
    · rw [compile]
      cases compileItems policy (ofSpecs items) <;> rfl
  · refine ⟨.or (ofSpecs items), ?_, rfl, rfl, fun policy => ?_⟩
    · unfold ofSpec
      simp only [hop]
    · rw [compile]
      cases compileItems policy (ofSpecs items) <;> rfl

-- A written composite is read whatever its items are, with one child for each of them in their order. The
-- strict policy fails with the failure of the first item that fails by itself, and makes a composite of all
-- of them where none does; the permissive one makes it of those that do not fail.
theorem composite_gathers_items {spec : FilterSpec} {op : FilterOp} (hop : FilterOp.ofName? spec.op = some op)
    (hcomposite : op = .and ∨ op = .or) :
    ∃ f, ofSpec spec = .ok f ∧ f.op? = some op ∧ f.items = spec.items.map ofItem ∧
      (∀ e, f.compile .strict = .error e ↔ FailsFirst (compileSpec .strict) e spec.items) ∧
      (∀ q, f.compile .strict = .ok q ↔
        ∃ qs, List.Forall₂ (fun item own => compileSpec .strict item = .ok own) spec.items qs ∧
          q = compositeOf op qs) ∧
      f.compile .permissive =
        .ok (compositeOf op (spec.items.filterMap fun item => (compileSpec .permissive item).toOption)) := by
  obtain ⟨f, hread, hop?, hitems, hcompile⟩ := ofSpec_composite hop hcomposite
  refine ⟨f, hread, hop?, hitems.trans (ofSpecs_eq_map spec.items), fun e => ?_, fun q => ?_, ?_⟩
  · rw [hcompile, Except.map_eq_error_iff]
    exact compileItems_ofSpecs_eq_error_iff
  · rw [hcompile, Except.map_eq_ok_iff]
    constructor
    · rintro ⟨clauses, hclauses, rfl⟩
      obtain ⟨qs, hqs, rfl⟩ := compileItems_ofSpecs_eq_ok_iff.mp hclauses
      exact ⟨qs, hqs, rfl⟩
    · rintro ⟨qs, hqs, rfl⟩
      exact ⟨_, compileItems_ofSpecs_eq_ok_iff.mpr ⟨qs, hqs, rfl⟩, rfl⟩
  · rw [hcompile, compileItems_permissive_ofSpecs]
    rfl

-- A range without its upper end, inside a composite of its own, and an operator that there is not.
def openRange : FilterSpec := ⟨"$range", "b", .array [.int32 1], []⟩

def nearby : FilterSpec := ⟨"$near", "loc", .null, []⟩

def isOne : FilterSpec := ⟨"$eq", "a", .int32 1, []⟩

def writtenEither : FilterSpec := ⟨"OR", "", .null, [isOne, ⟨"and", "", .null, [openRange]⟩, nearby]⟩

theorem composite_gathers_items_writtenEither :
    ∃ f, ofSpec writtenEither = .ok f ∧ f.items.length = 3 ∧
      f.compile .strict = .error (.malformed (.boundsExpected 1)) ∧
      f.compile .permissive = .ok (compositeOf .or [[("a", .int32 1)], compositeOf .and []]) := by
  obtain ⟨f, hread, _, hitems, herror, _, hpermissive⟩ :=
    @composite_gathers_items writtenEither .or (by decide) (.inr rfl)
  refine ⟨f, hread, by rw [hitems]; rfl, ?_, hpermissive⟩
  refine (herror _).mpr ⟨[isOne], ⟨"and", "", .null, [openRange]⟩, [nearby], rfl, ?_, ?_⟩
  · intro other hother
    rw [List.mem_singleton.mp hother]
    exact ⟨[("a", .int32 1)], rfl⟩
  · rfl

end Filter

end DocStore
