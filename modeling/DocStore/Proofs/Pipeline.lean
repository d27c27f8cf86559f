import DocStore.Pipeline

namespace DocStore.Pipeline

variable {stages : List Document} {docs : List Document}

theorem run_match (selector : Document) :
    run ([("$match", .document selector)] :: stages) docs =
      (do run stages (← Selector.select selector docs)) := rfl

theorem run_sort (sort : Document) :
    run ([("$sort", .document sort)] :: stages) docs =
      (do
        sort.checkSort
        run stages (sort.sortBy docs)) := by
  rw [run, runStage]
  cases h : sort.checkSort <;> simp [documentOf, h, bind, Except.bind, pure, Except.pure]

theorem countOf_natCast {arg : Value} {n : Nat} (stage : String) (h : arg.toWhole? = some (n : Int)) :
    countOf stage arg = .ok n := by
  simp [countOf, h]

theorem run_skip {arg : Value} {n : Nat} (h : arg.toWhole? = some (n : Int)) :
    run ([("$skip", arg)] :: stages) docs = run stages (docs.drop n) := by
  rw [run, runStage, countOf_natCast "$skip" h]
  rfl

theorem run_limit {arg : Value} {n : Nat} (h : arg.toWhole? = some (n : Int)) :
    run ([("$limit", arg)] :: stages) docs = run stages (docs.take n) := by
  rw [run, runStage, countOf_natCast "$limit" h]
  rfl

theorem run_project (projection : Document) :
    run ([("$project", .document projection)] :: stages) docs =
      (do run stages (← projection.projectAll docs)) := rfl

theorem run_count (field : String) :
    run ([("$count", .string field)] :: stages) docs =
      run stages [[(field, Value.ofInt docs.length)]] := rfl

end DocStore.Pipeline
