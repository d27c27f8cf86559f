import DocStore.Proofs.Collection.Selection
import DocStore.Proofs.Store.Read

namespace DocStore

namespace Store

-- Whether a command counts what the query document selects. It may carry more, and
-- a command without a query document counts everything.
def CountsBy (command : Document) (name : String) (selector : Document) : Prop :=
  (∃ rest, command = ("count", .string name) :: rest) ∧ orEmpty (command.document? "query") = selector

-- What is selected in a collection as a session sees it.
def selectIn (s : Store) (session : Option SessionId) (name : String) (selector : Document) :
    Except StoreError (List Document) := do
  Selector.select selector ((← s.view session).documents name)

section

variable {s : Store} {session : Option SessionId} {name field : String}
  {selector update command : Document}

theorem countIn_eq_selectIn (s : Store) (session : Option SessionId) (name : String) (selector : Document) :
    s.countIn session name selector = (s.selectIn session name selector).map (·.length) := by
  unfold countIn selectIn
  cases s.view session <;> rfl

theorem findIn_default (s : Store) (session : Option SessionId) (name : String) (selector : Document) :
    s.findIn session name selector {} = s.selectIn session name selector := by
  unfold findIn selectIn
  simp only [Collection.find_default]

theorem aggregateIn_count (s : Store) (session : Option SessionId) (name field : String)
    (selector : Document) :
    s.aggregateIn session name [[("$match", .document selector)], [("$count", .string field)]] =
      (s.selectIn session name selector).map fun found => [[(field, Value.ofInt found.length)]] := by
  unfold aggregateIn selectIn
  simp only [Pipeline.run_match, Pipeline.run_count]
  cases s.view session with
  | error e => rfl
  | ok data =>
      simp only [bind, Except.bind]
      cases Selector.select selector (data.documents name) <;> rfl

theorem runCommand_count (h : CountsBy command name selector) :
    (s.runCommand session command).1 =
      (s.countIn session name selector).map fun n : Nat => reply [("n", .int64 (Int64.ofInt n))] := by
  obtain ⟨⟨rest, rfl⟩, hselector⟩ := h
  simp only [runCommand, hselector]
  change (do return reply [("n", .int64 (Int64.ofInt (← s.countIn session name selector)))]) = _
  cases s.countIn session name selector <;> rfl

theorem deleteMany_outcome (hready : s.failing ≠ some "delete_many") :
    (s.perform session (.deleteMany name selector)).1 = s.countIn session name selector := by
  rw [perform_of_write rfl hready]
  cases hv : s.view session with
  | error e =>
      rw [write_of_view_error (by rw [counted_view, hv])]
      simp only [countIn, hv]
      rfl
  | ok data =>
      rw [write_outcome (by rw [counted_view, hv]), Collection.deleteMany_outcome]
      simp only [countIn, hv]
      rfl

theorem updateMany_matched {report : UpdateReport} (hready : s.failing ≠ some "update_many")
    (h : (s.perform session (.updateMany name selector update false)).1 = .ok report) :
    s.countIn session name selector = .ok report.matched := by
  rw [perform_of_write rfl hready] at h
  cases hv : s.view session with
  | error e =>
      rw [write_of_view_error (by rw [counted_view, hv])] at h
      cases h
  | ok data =>
      rw [write_outcome (by rw [counted_view, hv])] at h
      simp only [countIn, hv]
      exact Collection.update_matched h

-- A deletion that succeeds tells how many documents pass, and leaves those that
-- do not, in their order.
theorem view_deleteMany {n : Nat} (hready : s.failing ≠ some "delete_many")
    (h : (s.perform session (.deleteMany name selector)).1 = .ok n) :
    ∃ data, s.view session = .ok data ∧
      (∀ d ∈ data.documents name, ∃ b, Selector.holds d selector = .ok b) ∧
      ((data.documents name).filter (Selector.passes selector)).length = n ∧
      (s.perform session (.deleteMany name selector)).2.view session =
        .ok (data.insert name ((data.documents name).filter (!Selector.passes selector ·))) := by
  rw [deleteMany_outcome hready] at h
  rw [perform_of_write rfl hready]
  cases hv : s.view session with
  | error e =>
      simp only [countIn, hv] at h
      cases h
  | ok data =>
      simp only [countIn, hv] at h
      obtain ⟨found, hfound, hlength⟩ := Except.map_eq_ok_iff.mp h
      have hdecided := Selector.decided_of_select hfound
      rw [Selector.select_of_decided hdecided, Except.ok.injEq] at hfound
      refine ⟨data, rfl, hdecided, hfound ▸ hlength, ?_⟩
      rw [view_write (by rw [counted_view, hv]), if_pos rfl,
        Collection.deleteMany_documents name hdecided]

-- Nothing that passes is left to be counted.
theorem count_after_deleteMany {n : Nat} (hcount : s.failing ≠ some "count_documents")
    (hready : s.failing ≠ some "delete_many")
    (h : (s.perform session (.deleteMany name selector)).1 = .ok n) :
    ((s.perform session (.deleteMany name selector)).2.perform session (.countDocuments name selector)).1 = .ok 0 := by
  obtain ⟨data, -, hdecided, -, hview⟩ := view_deleteMany hready h
  have hstill : (s.perform session (.deleteMany name selector)).2.failing ≠ some "count_documents" := by
    rw [perform_of_ready hready, failing_answer]
    exact hcount
  rw [perform_of_read rfl rfl hstill]
  change countIn _ session name selector = .ok 0
  simp only [countIn, hview]
  change Collection.count selector (Collections.documents (data.insert name _) name) = .ok 0
  rw [Collections.documents_insert_self, Collection.count, Selector.select_rejected hdecided]
  rfl

-- Counting, finding without options, the count command, the pipeline that counts
-- and deleting tell of the same number of documents, or fail with the same error;
-- so does an update, as far as it succeeds. What is deleted is gone, and the rest stays.
theorem selections_agree {allowDiskUse : Bool} (hcommand : CountsBy command name selector)
    (hready : ∀ call ∈ ["count_documents", "find", "run_command", "aggregate", "delete_many", "update_many"],
      s.failing ≠ some call) :
    let count := (s.perform session (.countDocuments name selector)).1
    let deletion := s.perform session (.deleteMany name selector)
    (s.perform session (.find name selector {})).1.map (·.rest.length) = count ∧
      (s.perform session (.runCommand command)).1.map (fun reply => OrderedMap.get? reply "n") =
        count.map (fun n : Nat => some (.int64 (Int64.ofInt n))) ∧
      (s.perform session (.aggregate name
          [[("$match", .document selector)], [("$count", .string field)]] allowDiskUse)).1 =
        count.map (fun n : Nat => { rest := [[(field, Value.ofInt n)]] }) ∧
      (∀ n : Nat, Integer.fits64 n = true →
        (Value.int64 (Int64.ofInt n)).toWhole? = some (n : Int) ∧
          (Value.ofInt n).toWhole? = some (n : Int)) ∧
      deletion.1 = count ∧
      (∀ report, (s.perform session (.updateMany name selector update false)).1 = .ok report →
        count = .ok report.matched) ∧
      ∀ n, deletion.1 = .ok n → ∃ data, s.view session = .ok data ∧
        (∀ d ∈ data.documents name, ∃ b, Selector.holds d selector = .ok b) ∧
        ((data.documents name).filter (Selector.passes selector)).length = n ∧
        deletion.2.view session =
          .ok (data.insert name ((data.documents name).filter (!Selector.passes selector ·))) ∧
        (deletion.2.perform session (.countDocuments name selector)).1 = .ok 0 := by
  intro count deletion
  have hcount : count = s.countIn session name selector :=
    perform_of_read rfl rfl (hready "count_documents" (by decide))
  have hdelete : s.failing ≠ some "delete_many" := hready "delete_many" (by decide)
  refine ⟨?_, ?_, ?_, fun n hn => ⟨Value.toWhole?_int64 hn, Value.toWhole?_ofInt hn⟩, ?_, ?_, ?_⟩
  · rw [perform_of_read rfl rfl (hready "find" (by decide)), hcount, countIn_eq_selectIn]
    simp only [answer, findIn_default]
    cases s.selectIn session name selector <;> rfl
  · rw [perform_of_read rfl rfl (hready "run_command" (by decide)), hcount]
    simp only [answer, runCommand_count hcommand]
    cases s.countIn session name selector <;> rfl
  · rw [perform_of_read rfl rfl (hready "aggregate" (by decide)), hcount, countIn_eq_selectIn]
    simp only [answer, aggregateIn_count]
    cases s.selectIn session name selector <;> rfl
  · rw [hcount]
    exact deleteMany_outcome hdelete
  · intro report h
    rw [hcount]
    exact updateMany_matched (hready "update_many" (by decide)) h
  · intro n h
    obtain ⟨data, hv, hdecided, hlength, hview⟩ := view_deleteMany hdelete h
    exact ⟨data, hv, hdecided, hlength, hview,
      count_after_deleteMany (hready "count_documents" (by decide)) hdelete h⟩

end

def priced (id price : Int32) : Document := [("_id", .int32 id), ("price", .int32 price)]

-- A session that sees three documents where one is committed.
def pricing : Store :=
  { committed := [("c", [priced 1 5])]
    sessions := [(⟨0⟩, { data := [("c", [priced 1 5, priced 2 1, priced 3 7])] })] }

def aboveTwo : Document := [("price", .document [("$gt", .int32 2)])]

def countAboveTwo : Document := [("count", .string "c"), ("query", .document aboveTwo)]

def markDear : Document := [("$set", .document [("dear", .boolean true)])]

theorem selections_agree_aboveTwo :
    let deletion := pricing.perform (some ⟨0⟩) (.deleteMany "c" aboveTwo)
    CountsBy countAboveTwo "c" aboveTwo ∧
      (pricing.perform (some ⟨0⟩) (.find "c" aboveTwo {})).1.map (·.rest.length) = .ok 2 ∧
      (pricing.perform (some ⟨0⟩) (.runCommand countAboveTwo)).1.map (fun reply => OrderedMap.get? reply "n") =
        .ok (some (.int64 2)) ∧
      (pricing.perform (some ⟨0⟩) (.aggregate "c"
          [[("$match", .document aboveTwo)], [("$count", .string "n")]] false)).1 =
        .ok { rest := [[("n", .int32 2)]] } ∧
      deletion.1 = .ok 2 ∧
      (∃ report, (pricing.perform (some ⟨0⟩) (.updateMany "c" aboveTwo markDear false)).1 = .ok report ∧
        report.matched = 2) ∧
      ∃ data, pricing.view (some ⟨0⟩) = .ok data ∧
        deletion.2.view (some ⟨0⟩) = .ok (data.insert "c" [priced 2 1]) ∧
        (deletion.2.perform (some ⟨0⟩) (.countDocuments "c" aboveTwo)).1 = .ok 0 := by
  intro deletion
  have hcommand : CountsBy countAboveTwo "c" aboveTwo := ⟨⟨_, rfl⟩, rfl⟩
  have hcount : (pricing.perform (some ⟨0⟩) (.countDocuments "c" aboveTwo)).1 = .ok 2 := rfl
  obtain ⟨hfind, hreply, hpipeline, _, hdeleted, hupdate, hrest⟩ :=
    @selections_agree pricing (some ⟨0⟩) "c" "n" aboveTwo markDear countAboveTwo false hcommand
      fun _ _ hfailing => nomatch hfailing
  rw [hcount] at hfind hreply hpipeline hdeleted
  obtain ⟨data, hv, _, _, hview, hnone⟩ := hrest 2 hdeleted
  refine ⟨hcommand, hfind, hreply, hpipeline, hdeleted, ⟨{ matched := 2, modified := 2 }, rfl, ?_⟩, data,
    hv, ?_, hnone⟩
  · have hmatched : Except.ok 2 = Except.ok _ := hcount.symm.trans (hupdate _ rfl)
    exact (Except.ok.inj hmatched).symm
  · cases hv
    exact hview

end Store

end DocStore
