import DocStore.Proofs.Pipeline
import DocStore.Proofs.Store.Transaction
import DocStore.Proofs.Value.Whole

namespace DocStore

namespace Collection

-- A search does what the stages do one after the other. An error comes from the
-- same place: from the selection, the sort document or the projection, in this order.
theorem run_eq_find {selector sort projection : Document} {skip limit : Value} {n l : Nat}
    (hskip : skip.toWhole? = some (n : Int)) (hlimit : limit.toWhole? = some (l : Int)) (hl : 0 < l)
    (docs : List Document) :
    Pipeline.run
        [[("$match", .document selector)], [("$sort", .document sort)], [("$skip", skip)],
          [("$limit", limit)], [("$project", .document projection)]] docs =
      find selector
        { projection := some projection, sort := some sort, skip := some n, limit := some l } docs := by
  have hlimited : ∀ found : List Document, limited (some (l : Int)) found = found.take l := by
    intro found
    have hne : (l : Int) ≠ 0 := by omega
    rw [limited, if_neg hne, Int.natAbs_natCast]
  rw [Pipeline.run_match, find]
  cases Selector.select selector docs with
  | error e => rfl
  | ok found =>
      change Pipeline.run _ found = _
      rw [Pipeline.run_sort]
      simp only [sorted]
      cases sort.checkSort with
      | error e => rfl
      | ok _ =>
          change Pipeline.run _ (sort.sortBy found) = _
          rw [Pipeline.run_skip hskip, Pipeline.run_limit hlimit, Pipeline.run_project]
          simp only [bind, Except.bind, pure, Except.pure, hlimited, projected, Option.getD_some]
          cases projection.projectAll (((sort.sortBy found).drop n).take l) <;> rfl

end Collection

namespace Store

section

variable {s : Store} {session : Option SessionId}

-- A call that only reads is answered by what its session sees, however many calls
-- have been counted.
theorem perform_of_read {c : Call} (hc : c.takesSession = true) (hw : c.write? = none)
    (hready : s.failing ≠ some c.name) : (s.perform session c).1 = (s.answer session c).1 := by
  rw [perform_of_ready hready]
  exact answer_eq_of_view hc hw rfl

end

-- A find command that carries a query document and all the options. The numbers
-- may be of any type that holds whole numbers.
structure FindsBy (command : Document) (name : String) (selector sort projection : Document)
    (skip limit : Value) : Prop where
  target : ∃ rest, command = ("find", .string name) :: rest
  filter : command.get? "filter" = some (.document selector)
  sort : command.get? "sort" = some (.document sort)
  projection : command.get? "projection" = some (.document projection)
  skip : command.get? "skip" = some skip
  limit : command.get? "limit" = some limit

-- The documents of the first batch that a reply holds.
def firstBatch? (reply : Document) : Option (List Document) :=
  ((reply.document? "cursor").bind (·.array? "firstBatch")).bind (·.mapM Value.document?)

section

variable {s : Store} {session : Option SessionId} {name : String}
  {selector sort projection command : Document} {skip limit : Value} {n l : Nat}

theorem findOptionsOf_eq (h : FindsBy command name selector sort projection skip limit)
    (hskip : skip.toWhole? = some (n : Int)) (hlimit : limit.toWhole? = some (l : Int)) :
    findOptionsOf command =
      { projection := some projection, sort := some sort, skip := some n, limit := some l } := by
  have hn : (if (0 : Int) ≤ n then some (n : Int).toNat else none) = some n := by
    rw [if_pos (Int.natCast_nonneg n), Int.toNat_natCast]
  simp only [findOptionsOf, Document.document?, h.projection, h.sort, h.skip, h.limit, Option.bind_some,
    Value.document?, hskip, hlimit, hn]

theorem runCursorCommand_find (h : FindsBy command name selector sort projection skip limit) :
    s.runCursorCommand session command =
      (s.findIn session name selector (findOptionsOf command)).map (name, ·) := by
  have hselector : orEmpty (command.document? "filter") = selector := by
    rw [Document.document?, h.filter]
    rfl
  obtain ⟨rest, rfl⟩ := h.target
  simp only [runCursorCommand, hselector]
  change (do return (name, ← s.findIn session name selector (findOptionsOf _))) = _
  cases s.findIn session name selector (findOptionsOf (("find", .string name) :: rest)) <;> rfl

theorem runCommand_find (h : FindsBy command name selector sort projection skip limit) :
    (s.runCommand session command).1 =
      (s.findIn session name selector (findOptionsOf command)).map (cursorReply name) := by
  have hcursor : s.runCursorCommand session command = _ := runCursorCommand_find h
  obtain ⟨rest, rfl⟩ := h.target
  simp only [runCommand, hcursor]
  cases s.findIn session name selector (findOptionsOf (("find", .string name) :: rest)) <;> rfl

theorem firstBatch?_cursorReply (name : String) (docs : List Document) :
    firstBatch? (cursorReply name docs) = some docs := by
  change (docs.map Value.document).mapM Value.document? = some docs
  rw [List.mapM_map]
  exact List.mapM_pure.trans (congrArg some (List.map_id docs))

-- The search, the pipeline and the command, as a stream or as a first batch,
-- give the same documents in the same order, or the same error.
theorem reads_agree {skip' limit' : Value} {allowDiskUse : Bool}
    (hskip : skip.toWhole? = some (n : Int)) (hlimit : limit.toWhole? = some (l : Int))
    (hskip' : skip'.toWhole? = some (n : Int)) (hlimit' : limit'.toWhole? = some (l : Int)) (hl : 0 < l)
    (hcommand : FindsBy command name selector sort projection skip' limit')
    (hready : ∀ call ∈ ["find", "aggregate", "run_command_cursor", "run_command"],
      s.failing ≠ some call) :
    let found := (s.perform session (.find name selector
      { projection := some projection, sort := some sort, skip := some n, limit := some l })).1
    (s.perform session (.aggregate name
        [[("$match", .document selector)], [("$sort", .document sort)], [("$skip", skip)],
          [("$limit", limit)], [("$project", .document projection)]] allowDiskUse)).1 = found ∧
      (s.perform session (.runCommandCursor command)).1 = found ∧
      (s.perform session (.runCommand command)).1.map firstBatch? =
        found.map fun stream => some stream.rest := by
  intro found
  have hoptions := findOptionsOf_eq hcommand hskip' hlimit'
  have hfound : found = streamOf (s.findIn session name selector (findOptionsOf command)) := by
    rw [hoptions]
    exact perform_of_read rfl rfl (hready "find" (by decide))
  refine ⟨?_, ?_, ?_⟩
  · have hrun : s.aggregateIn session name
        [[("$match", .document selector)], [("$sort", .document sort)], [("$skip", skip)],
          [("$limit", limit)], [("$project", .document projection)]] =
        s.findIn session name selector (findOptionsOf command) := by
      rw [hoptions]
      simp only [aggregateIn, findIn, Collection.run_eq_find hskip hlimit hl]
    rw [perform_of_read rfl rfl (hready "aggregate" (by decide)), hfound, ← hrun]
    rfl
  · rw [perform_of_read rfl rfl (hready "run_command_cursor" (by decide)), hfound]
    simp only [answer, runCursorCommand_find hcommand]
    cases s.findIn session name selector (findOptionsOf command) <;> rfl
  · rw [perform_of_read rfl rfl (hready "run_command" (by decide)), hfound]
    simp only [answer, runCommand_find hcommand]
    cases s.findIn session name selector (findOptionsOf command) with
    | error e => rfl
    | ok docs => exact congrArg Except.ok (firstBatch?_cursorReply name docs)

end

def ranked (id rank : Int32) : Document := [("_id", .int32 id), ("rank", .int32 rank)]

def rankings : Store := { committed := [("c", [ranked 1 7, ranked 2 9, ranked 3 8])] }

def byRank : Document := [("rank", .int32 (-1))]

def rankOnly : Document := [("rank", .boolean true), ("_id", .boolean false)]

def secondByRank : Document :=
  [("find", .string "c"), ("limit", .int64 1), ("skip", .int32 1), ("sort", .document byRank),
    ("projection", .document rankOnly), ("filter", .document [])]

-- The second of three, with the numbers written as one type in the stages and as
-- another in the command.
theorem reads_agree_secondByRank :
    FindsBy secondByRank "c" [] byRank rankOnly (.int32 1) (.int64 1) ∧
      (rankings.perform none (.aggregate "c"
          [[("$match", .document [])], [("$sort", .document byRank)], [("$skip", .int64 1)],
            [("$limit", .int32 1)], [("$project", .document rankOnly)]] false)).1 =
        .ok { rest := [[("rank", .int32 8)]] } ∧
      (rankings.perform none (.runCommandCursor secondByRank)).1 = .ok { rest := [[("rank", .int32 8)]] } ∧
      (rankings.perform none (.runCommand secondByRank)).1.map firstBatch? =
        .ok (some [[("rank", .int32 8)]]) := by
  have hcommand : FindsBy secondByRank "c" [] byRank rankOnly (.int32 1) (.int64 1) :=
    ⟨⟨_, rfl⟩, rfl, rfl, rfl, rfl, rfl⟩
  have hfound : (rankings.perform none (.find "c" []
      { projection := some rankOnly, sort := some byRank, skip := some 1, limit := some 1 })).1 =
        .ok { rest := [[("rank", .int32 8)]] } := rfl
  obtain ⟨hpipeline, hcursor, hbatch⟩ :=
    @reads_agree rankings none "c" [] byRank rankOnly secondByRank (.int64 1) (.int32 1) 1 1 (.int32 1)
      (.int64 1) false rfl rfl rfl rfl Nat.one_pos hcommand fun _ _ hfailing => nomatch hfailing
  exact ⟨hcommand, hpipeline.trans hfound, hcursor.trans hfound,
    hbatch.trans (congrArg (Except.map fun stream => some stream.rest) hfound)⟩

end Store

end DocStore
