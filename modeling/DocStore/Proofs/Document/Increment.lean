import DocStore.Proofs.Document.Identifier
import DocStore.Proofs.Value.Saturation

namespace DocStore.Document

-- What an increment finds at a path.
def counted (d : Document) (path : String) : Value := (d.getPath? path).getD (.int32 0)

-- The integer at a path, zero standing for nothing.
def count? (d : Document) (path : String) : Option Int := (d.counted path).integer?

section

variable {path : String} {step : Value} {k : Int}

theorem applyUpdate_inc (hid : path ≠ "_id") (hstep : step.integer? = some k) (d : Document) :
    ∃ changed, applyUpdate [("$inc", .document [(path, step)])] d =
      ⟨(d.setPath path ((d.counted path).addNumber step (Double.ofInt k))).1, .ok changed⟩ := by
  have hamount := Value.toDouble?_of_integer hstep
  have hoperator : applyOperator "$inc" path step d =
      .ok (d.setPath path ((d.counted path).addNumber step (Double.ofInt k))) := by
    simp [applyOperator, hid, hamount, counted]
  simp only [applyUpdate, applyFields, hoperator, Except.map]
  exact ⟨_, rfl⟩

-- Where an increment finds an integer or nothing, it is carried out and leaves the sum: the exact one
-- if that fits in 64 bits, and only then, or else the end of the range on that side.
theorem increment_effect (hpath : Path.Readable path) (hid : path ≠ "_id") (hstep : step.integer? = some k)
    {d : Document} {old : Int} (hold : d.count? path = some old) :
    ∃ after changed, applyUpdate [("$inc", .document [(path, step)])] d = ⟨after, .ok changed⟩ ∧
      (after.getPath? path).isSome = true ∧
      (after.count? path = some (old + k) ↔ Integer.fits64 (old + k) = true) ∧
      ((Integer.max64 : Int) < old + k → after.count? path = some (Integer.max64 : Int)) ∧
      (old + k < -(Integer.max64 : Int) - 1 → after.count? path = some (-(Integer.max64 : Int) - 1)) := by
  obtain ⟨changed, happly⟩ := applyUpdate_inc hid hstep d
  refine ⟨_, changed, happly, ?_⟩
  have hread := getPath?_setPath hpath d ((d.counted path).addNumber step (Double.ofInt k))
  have hsum := Value.integer?_addNumber hold hstep (Double.ofInt k)
  have hcount : count? (d.setPath path ((d.counted path).addNumber step (Double.ofInt k))).1 path =
      some (Value.clamp64 (old + k)) := by
    rw [count?, counted, hread]
    exact hsum
  rw [hcount, hread, ← Value.clamp64_eq_self_iff, Option.some.injEq, Option.some.injEq, Option.some.injEq]
  unfold Value.clamp64
  refine ⟨rfl, Iff.rfl, fun habove => ?_, fun hbelow => ?_⟩
  · omega
  · omega

end

-- A counter below an array, one that is missing, and one at the end of the range.
def counters : Document :=
  [("hits", .array [.int32 2147483647]), ("full", .int64 9223372036854775807)]

theorem increment_effect_counters :
    (∃ after changed, applyUpdate [("$inc", .document [("hits.0", .int32 1)])] counters = ⟨after, .ok changed⟩ ∧
        after.count? "hits.0" = some 2147483648) ∧
      (∃ after changed, applyUpdate [("$inc", .document [("misses.all", .int64 (-4))])] counters =
        ⟨after, .ok changed⟩ ∧ after.count? "misses.all" = some (-4)) ∧
      ∃ after changed, applyUpdate [("$inc", .document [("full", .int32 1)])] counters = ⟨after, .ok changed⟩ ∧
        after.count? "full" = some 9223372036854775807 := by
  obtain ⟨hits, hitsChanged, hitsApply, _, hexact, _⟩ :=
    @increment_effect "hits.0" (.int32 1) 1 ⟨rfl, by decide, by decide⟩ (by decide) rfl counters 2147483647 rfl
  obtain ⟨misses, missesChanged, missesApply, _, hmissing, _⟩ :=
    @increment_effect "misses.all" (.int64 (-4)) (-4) ⟨rfl, by decide, by decide⟩ (by decide) rfl counters 0 rfl
  obtain ⟨full, fullChanged, fullApply, _, _, habove, _⟩ :=
    @increment_effect "full" (.int32 1) 1 ⟨rfl, by decide, by decide⟩ (by decide) rfl counters
      9223372036854775807 rfl
  refine ⟨⟨hits, hitsChanged, hitsApply, ?_⟩, ⟨misses, missesChanged, missesApply, ?_⟩,
    full, fullChanged, fullApply, ?_⟩
  · exact hexact.mpr (by decide)
  · exact hmissing.mpr (by decide)
  · exact habove (by decide)

-- The last integer is not refused and stays as it is, and a text gives way to a number.
theorem increment_not_exact :
    applyUpdate [("$inc", .document [("n", .int32 1)])] [("n", .int64 9223372036854775807)] =
        ⟨[("n", .int64 9223372036854775807)], .ok false⟩ ∧
      ∃ x, applyUpdate [("$inc", .document [("n", .int32 1)])] [("n", .string "x")] =
        ⟨[("n", .double x)], .ok true⟩ :=
  ⟨rfl, _, rfl⟩

end DocStore.Document
