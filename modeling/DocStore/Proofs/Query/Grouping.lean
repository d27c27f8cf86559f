import DocStore.Cursor.Open
import DocStore.Proofs.Filter.Conjunction

namespace DocStore

namespace Clause

inductive Topic where
  | table
  | select
  | filter
  | order
  | skip
  | take
  | aggregate
  | groupBy
  | command
  | insert
  | update
  | delete
  | save
  deriving DecidableEq

def topic : Clause → Topic
  | .table _ => .table
  | .select _ => .select
  | .filter _ => .filter
  | .order _ => .order
  | .skip _ => .skip
  | .take _ => .take
  | .aggregate _ => .aggregate
  | .groupBy _ => .groupBy
  | .command _ => .command
  | .insert => .insert
  | .update _ => .update
  | .delete => .delete
  | .save => .save

-- Whether two lists hold the same clauses about each topic, in the same order.
def SameByTopic (first second : List Clause) : Prop :=
  ∀ t, first.filter (·.topic = t) = second.filter (·.topic = t)

variable {first second : List Clause}

theorem SameByTopic.symm (h : SameByTopic first second) : SameByTopic second first := fun t => (h t).symm

theorem SameByTopic.mem_iff (h : SameByTopic first second) (clause : Clause) :
    clause ∈ first ↔ clause ∈ second := by
  have hown : ∀ clauses : List Clause, clause ∈ clauses ↔ clause ∈ clauses.filter (·.topic = clause.topic) := by
    simp
  rw [hown first, hown second, h clause.topic]

theorem SameByTopic.mem_asked_iff (h : SameByTopic first second) (kind : CommandKind) :
    kind ∈ first.filterMap asks? ↔ kind ∈ second.filterMap asks? := by
  simp only [List.mem_filterMap, h.mem_iff]

end Clause

namespace GroupedQuery

variable {g : GroupedQuery} {first second : List Clause}

-- What is kept about one topic, and nothing else.
def about (g : GroupedQuery) : Clause.Topic → GroupedQuery
  | .table => { table := g.table }
  | .select => { select := g.select }
  | .filter => { filter := g.filter }
  | .order => { order := g.order }
  | .skip => { skip := g.skip }
  | .take => { take := g.take }
  | .aggregate => { aggregate := g.aggregate }
  | .groupBy => { groupBy := g.groupBy }
  | .command => { command := g.command }
  | .update => { updateFields := g.updateFields }
  | .insert => {}
  | .delete => {}
  | .save => {}

-- A clause changes what is kept about its own topic, and by nothing but that.
theorem about_absorb (g : GroupedQuery) (clause : Clause) (t : Clause.Topic) :
    (g.absorb clause).about t = if clause.topic = t then ((g.about t).absorb clause).about t else g.about t := by
  cases clause <;> cases t <;> rfl

theorem about_absorbAll {other : GroupedQuery} {t : Clause.Topic} (h : g.about t = other.about t)
    (clauses : List Clause) :
    (g.absorbAll clauses).about t = (other.absorbAll (clauses.filter (·.topic = t))).about t := by
  induction clauses generalizing g other with
  | nil => exact h
  | cons clause rest ih =>
      have hstep := about_absorb g clause t
      by_cases htopic : clause.topic = t
      · rw [if_pos htopic, h] at hstep
        have hother := about_absorb other clause t
        rw [if_pos htopic] at hother
        simpa [absorbAll, htopic] using ih (hstep.trans hother.symm)
      · rw [if_neg htopic, h] at hstep
        simpa [absorbAll, htopic] using ih hstep

theorem eq_of_about {other : GroupedQuery} (hkind : g.kind = other.kind) (h : ∀ t, g.about t = other.about t) :
    g = other := by
  cases g
  cases other
  simp only [mk.injEq]
  exact ⟨congrArg table (h .table), congrArg select (h .select), congrArg filter (h .filter),
    congrArg order (h .order), congrArg skip (h .skip), congrArg take (h .take),
    congrArg aggregate (h .aggregate), congrArg groupBy (h .groupBy), congrArg command (h .command),
    congrArg updateFields (h .update), hkind⟩

@[simp] theorem absorbAll_kind (g : GroupedQuery) (clauses : List Clause) : (g.absorbAll clauses).kind = g.kind := by
  induction clauses generalizing g with
  | nil => rfl
  | cons clause rest ih => exact (ih (g.absorb clause)).trans (g.absorb_kind clause)

theorem absorbAll_eq (hsame : Clause.SameByTopic first second) (g : GroupedQuery) :
    g.absorbAll first = g.absorbAll second := by
  refine eq_of_about (by simp) fun t => ?_
  rw [about_absorbAll rfl first, about_absorbAll rfl second, hsame t]

-- The first of several that are all the same is the same wherever they stand.
theorem head?_eq_of_mem_iff {first second : List CommandKind} (hmem : ∀ kind, kind ∈ first ↔ kind ∈ second)
    (hfirst : ∀ kind ∈ first, first.head? = some kind) : second.head? = first.head? := by
  cases second with
  | nil => simp [List.eq_nil_iff_forall_not_mem.mpr fun kind h => List.not_mem_nil ((hmem kind).mp h)]
  | cons kind rest => exact (hfirst kind ((hmem kind).mpr List.mem_cons_self)).symm

theorem addAll_of_sameByTopic (hsame : Clause.SameByTopic first second) (h : addAll {} first = .ok g) :
    addAll {} second = .ok g := by
  rw [addAll_eq_ok_iff] at h ⊢
  obtain ⟨hasked, rfl⟩ := h
  simp only [Option.none_or] at hasked ⊢
  have hhead := head?_eq_of_mem_iff hsame.mem_asked_iff hasked
  rw [hhead, absorbAll_eq hsame]
  exact ⟨fun kind hkind => hasked kind ((hsame.mem_asked_iff kind).mpr hkind), rfl⟩

theorem ofClauses_of_sameByTopic (hsame : Clause.SameByTopic first second) (h : ofClauses first = .ok g) :
    ofClauses second = .ok g := by
  obtain ⟨all, hadd, hlimits⟩ := Except.bind_eq_ok_iff.mp h
  exact Except.bind_eq_ok_iff.mpr ⟨all, addAll_of_sameByTopic hsame hadd, hlimits⟩

-- Filters alone are never refused.
theorem ofClauses_filters (fs : List Filter) : ∃ g, ofClauses (fs.map .filter) = .ok g := by
  have hasked : (fs.map Clause.filter).filterMap Clause.asks? = [] := by
    simp [List.filterMap_map, Function.comp_def, Clause.asks?]
  have hadd : addAll {} (fs.map .filter) = .ok (absorbAll {} (fs.map .filter)) := by
    rw [addAll_eq_ok_iff, hasked]
    simp only [List.not_mem_nil, false_imp_iff, implies_true, true_and]
    exact eq_of_about (by simp) fun t => by cases t <;> rfl
  have hother : ∀ t, t ≠ .filter → (absorbAll {} (fs.map .filter)).about t = about {} t := by
    intro t ht
    have hnone : (fs.map Clause.filter).filter (·.topic = t) = [] := by simp [Clause.topic, ht.symm]
    rw [about_absorbAll rfl, hnone]
    rfl
  have hselect : (absorbAll {} (fs.map .filter)).select = [] := congrArg select (hother .select nofun)
  have horder : (absorbAll {} (fs.map .filter)).order = [] := congrArg order (hother .order nofun)
  refine ⟨absorbAll {} (fs.map .filter), Except.bind_eq_ok_iff.mpr ⟨_, hadd, ?_⟩⟩
  simp [checkLimits, hselect, horder]

-- The filters of a query are all asked for by its query document.
theorem ofClauses_selector {f : Filter} {rest : List Filter} {clauses : List Clause}
    (hfilters : clauses.filterMap Clause.filter? = f :: rest)
    (hcompile : ∀ own ∈ f :: rest, ∃ q, own.compile .strict = .ok q) (h : ofClauses clauses = .ok g) :
    ∃ whole, g.filter = some whole ∧ whole.StandsFor (f :: rest) := by
  obtain ⟨⟨q, hq⟩, hrest⟩ := List.forall_mem_cons.mp hcompile
  obtain ⟨whole, hwhole, hstands⟩ := (Filter.standsFor_singleton hq).conjoinAll hrest
  refine ⟨whole, ?_, hstands⟩
  rw [ofClauses_filter h, hfilters]
  exact hwhole

-- Queries with the same clauses about each topic are grouped alike or both refused, and filters that
-- all have query documents are grouped, under either policy, into one that holds where all of them do.
theorem clauses_grouped :
    (∀ first second, Clause.SameByTopic first second →
      (∃ g, ofClauses first = .ok g ∧ ofClauses second = .ok g) ∨
        (∃ e, ofClauses first = .error e) ∧ ∃ e, ofClauses second = .error e) ∧
      ∀ fs, fs ≠ [] → (∀ f ∈ fs, ∃ q, f.compile .strict = .ok q) →
        (∃ g, ofClauses (fs.map .filter) = .ok g) ∧
          ∀ clauses g, clauses.filterMap Clause.filter? = fs → ofClauses clauses = .ok g →
            ∃ q, (∀ policy, g.selector policy = .ok q) ∧
              ∀ d (verdict : Filter → Bool), (∀ f ∈ fs, f.Tells d (verdict f)) →
                Selector.holds d q = .ok (fs.all verdict) := by
  refine ⟨fun first second hsame => ?_, fun fs hne hcompile => ⟨?_, fun clauses g hfilters h => ?_⟩⟩
  · cases hfirst : ofClauses first with
    | ok g => exact Or.inl ⟨g, rfl, ofClauses_of_sameByTopic hsame hfirst⟩
    | error e =>
        refine Or.inr ⟨⟨e, rfl⟩, ?_⟩
        cases hsecond : ofClauses second with
        | error e => exact ⟨e, rfl⟩
        | ok g =>
            have hback := ofClauses_of_sameByTopic hsame.symm hsecond
            rw [hfirst] at hback
            cases hback
  · exact ofClauses_filters fs
  · cases fs with
    | nil => exact absurd rfl hne
    | cons f rest =>
        obtain ⟨whole, hwhole, q, hq, hanswers⟩ := ofClauses_selector hfilters hcompile h
        refine ⟨q, fun policy => ?_, hanswers⟩
        rw [selector, hwhole]
        exact Filter.compile_of_strict hq policy

-- Whoever is in a department and above an age.
def inOps : Filter := .and [.field "dept" (.equal (.string "ops"))]

def overThirty : Filter := .field "age" (.greater (.int32 30))

-- The same clauses in two orders.
def staff : List Clause :=
  [.table "staff", .filter inOps, .order ["-age"], .filter overThirty, .take 10, .update ["name"], .order ["name"]]

def staffAgain : List Clause :=
  [.update ["name"], .order ["-age"], .filter inOps, .order ["name"], .take 10, .filter overThirty, .table "staff"]

theorem clauses_grouped_staff :
    ∃ g, ofClauses staff = .ok g ∧ ofClauses staffAgain = .ok g ∧
      ∃ q, (∀ policy, g.selector policy = .ok q) ∧
        Selector.holds [("dept", .string "ops"), ("age", .int32 40)] q = .ok true ∧
        Selector.holds [("dept", .string "ops"), ("age", .int32 30)] q = .ok false := by
  have hsame : Clause.SameByTopic staff staffAgain := fun t => by cases t <;> rfl
  have hcompile : ∀ f ∈ [inOps, overThirty], ∃ q, f.compile .strict = .ok q := by
    rw [List.forall_mem_cons, List.forall_mem_singleton]
    exact ⟨⟨_, rfl⟩, _, rfl⟩
  rcases clauses_grouped.1 staff staffAgain hsame with ⟨g, hfirst, hsecond⟩ | ⟨⟨e, he⟩, _⟩
  · obtain ⟨q, hq, hanswers⟩ := (clauses_grouped.2 [inOps, overThirty] nofun hcompile).2 staff g rfl hfirst
    have hforty := hanswers [("dept", .string "ops"), ("age", .int32 40)] fun _ => true
    have hthirty := hanswers [("dept", .string "ops"), ("age", .int32 30)] fun f => f.op? == some .and
    rw [List.forall_mem_cons, List.forall_mem_singleton] at hforty hthirty
    exact ⟨g, hfirst, hsecond, q, hq, hforty ⟨⟨_, rfl, rfl⟩, _, rfl, rfl⟩, hthirty ⟨⟨_, rfl, rfl⟩, _, rfl, rfl⟩⟩
  · cases he

end GroupedQuery

end DocStore
