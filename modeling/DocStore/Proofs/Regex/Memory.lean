import DocStore.Proofs.CharSet.Encoded
import DocStore.Proofs.Regex.Literal

namespace DocStore.Regex

-- One of the two ways of reading, as the bytes that it takes.
structure Memory.IsSide (side : Memory → Nat) : Prop where
  both : ∀ n, side (.both n) = n
  add : ∀ a b, side (a.add b) = side a + side b

theorem Memory.isSide_forward : IsSide forward := ⟨fun _ => rfl, fun _ _ => rfl⟩

theorem Memory.isSide_backward : IsSide backward := ⟨fun _ => rfl, fun _ _ => rfl⟩

namespace Row

-- The bytes of the parts of a row, one by one.
def bytes (side : Memory → Nat) (row : Row) : Nat := (row.map fun part => side (partMemory part)).sum

section

variable {side : Memory → Nat} (hside : Memory.IsSide side)

include hside

-- Texts that meet take as much as one as they did as two.
theorem bytes_append (row other : Row) : (row.append other).bytes side = row.bytes side + other.bytes side := by
  fun_induction Row.append row other with
  | case1 row => simp [bytes]
  | case2 a b row =>
      simp only [bytes, partMemory, hside.both, encode, List.map_cons, List.map_nil, List.sum_cons, List.sum_nil,
        List.flatMap_append, List.length_append, Nat.mul_add]
      omega
  | case3 part rest row _ ih =>
      simp only [bytes, List.map_cons, List.sum_cons] at ih ⊢
      omega

theorem side_sum (start : Memory) (parts : List Memory) :
    side (Memory.sum start parts) = side start + (parts.map side).sum := by
  induction parts generalizing start with
  | nil => rfl
  | cons part rest ih =>
      have hrest := ih (start.add part)
      rw [hside.add] at hrest
      rw [List.map_cons, List.sum_cons, ← Nat.add_assoc, ← hrest]
      rfl

theorem side_memory_le (row : Row) : side row.memory ≤ CharSet.stateBytes + row.bytes side := by
  unfold memory
  split
  · rw [Memory.state, hside.both]
    exact Nat.le_add_right _ _
  · rw [side_sum hside, hside.both, List.map_map, Nat.zero_add]
    exact Nat.le_add_left _ _

end

end Row

-- The expression is one row, and neither way of reading it takes more than so many bytes.
def Light (n : Nat) (r : Regex) : Prop :=
  ∃ row : Row, r.branchRows = [[row]] ∧ row.bytes Memory.forward ≤ n ∧ row.bytes Memory.backward ≤ n

section

variable {n m : Nat} {r a b : Regex}

theorem Light.seq (ha : Light n a) (hb : Light m b) : Light (n + m) (.seq a b) := by
  obtain ⟨row, hrow, hforward, hbackward⟩ := ha
  obtain ⟨other, hother, hforwards, hbackwards⟩ := hb
  refine ⟨row.append other, ?_, ?_, ?_⟩
  · rw [branchRows, hrow, hother]
    rfl
  · rw [Row.bytes_append Memory.isSide_forward]
    exact Nat.add_le_add hforward hforwards
  · rw [Row.bytes_append Memory.isSide_backward]
    exact Nat.add_le_add hbackward hbackwards

theorem light_seqAll {rs : List Regex} (h : ∀ r ∈ rs, Light n r) : Light (n * rs.length) (seqAll rs) := by
  induction rs with
  | nil => exact ⟨[], rfl, Nat.le_refl 0, Nat.le_refl 0⟩
  | cons r rest ih =>
      obtain ⟨hr, hrest⟩ := List.forall_mem_cons.mp h
      cases rest with
      | nil => simpa [seqAll] using hr
      | cons next more =>
          have hrow := hr.seq (ih hrest)
          rwa [Nat.add_comm, ← Nat.mul_succ] at hrow

theorem Light.mono (h : Light n r) (hle : n ≤ m) : Light m r := by
  obtain ⟨row, hrow, hforward, hbackward⟩ := h
  exact ⟨row, hrow, hforward.trans hle, hbackward.trans hle⟩

theorem light_look (l : Look) : Light CharSet.stateBytes (.look l) := ⟨_, rfl, Nat.le_refl _, Nat.le_refl _⟩

theorem light_chars {set : CharSet} (hforward : (Row.ofSpans set.spans).bytes Memory.forward ≤ n)
    (hbackward : (Row.ofSpans set.spans).bytes Memory.backward ≤ n) : Light n (.chars set) :=
  ⟨_, rfl, hforward, hbackward⟩

-- What may come any number of times takes two more states, one of which is a choice.
theorem Light.anyNumber (h : Light n r) (hfull : r.mayBeEmpty = false) :
    Light (n + 2 * CharSet.stateBytes + 2 * CharSet.choiceBytes) (.times r 0 none) := by
  obtain ⟨row, hrow, hforward, hbackward⟩ := h
  have hone : Row.choice r [[row]] = [row] := rfl
  have hbytes := Row.side_memory_le Memory.isSide_forward row
  have hbytesBack := Row.side_memory_le Memory.isSide_backward row
  refine ⟨[.other (.times r 0 none) (row.memory.add .fork)], ?_, ?_, ?_⟩
  · rw [branchRows, hrow, hone, hfull]
    rfl
  · change row.memory.forward + (CharSet.stateBytes + 2 * CharSet.choiceBytes) + 0 ≤ _
    omega
  · change row.memory.backward + (CharSet.stateBytes + 2 * CharSet.choiceBytes) + 0 ≤ _
    omega

-- A light expression is accepted, whatever comes around it.
theorem Light.accepted (h : Light n r) (hn : n + 1000 ≤ maxMemory) : accepted r = .ok r := by
  obtain ⟨row, hrow, hforward, hbackward⟩ := h
  have hsmall : r.memory.isTooLarge = false := by
    have hlead : ∀ isFixed, leadBytes isFixed ≤ 200 := by decide
    have hstart := hlead r.isAtStart
    have hend := hlead r.isAtEnd
    have hbytes := Row.side_memory_le Memory.isSide_forward row
    have hbytesBack := Row.side_memory_le Memory.isSide_backward row
    have hone : Row.choice r [[row]] = [row] := rfl
    simp only [CharSet.stateBytes] at hbytes hbytesBack
    rw [memory, hrow, hone]
    refine decide_eq_false (Nat.not_lt.mpr (Nat.max_le.mpr ⟨?_, ?_⟩))
    all_goals
      simp only [Row.choiceMemory, CharSet.stateBytes]
      omega
  rw [Regex.accepted, hsmall]
  rfl

end

-- The mode of a pattern that has no flag but the one for any case.
def anyCaseMode : Mode := { anyCase := true }

-- All characters but the line feed.
def allButFeed : Text.Spans := [(0, 9), (11, 0xd7ff), (0xe000, 0x10ffff)]

theorem spans_anyChar : (anyChar anyCaseMode).spans = allButFeed := by decide +kernel

theorem light_anyRun : Light 1300 (anyRun anyCaseMode) := by
  have hchars : Light 1200 (.chars (anyChar anyCaseMode)) := by
    refine light_chars ?_ ?_
    · have hbytes : (Row.ofSpans allButFeed).bytes Memory.forward = CharSet.forwardBytes allButFeed := rfl
      have hsteps : CharSet.isAsciiOnly allButFeed = false := rfl
      rw [spans_anyChar, hbytes]
      exact (CharSet.forwardBytes_le hsteps).trans (by decide +kernel)
    · rw [spans_anyChar]
      decide +kernel
  exact (hchars.anyNumber rfl).mono (by decide)

end DocStore.Regex
