import DocStore.Proofs.Regex.Reading
import DocStore.Proofs.Regex.Run
import DocStore.Text.Case
import Mathlib.Data.List.Infix

namespace DocStore.Regex

section

variable {text : List Char} {i j : Nat}

theorem matches_seqAll_cons {r : Regex} {rest : List Regex} :
    Matches text (seqAll (r :: rest)) i j ↔ ∃ k, Matches text r i k ∧ Matches text (seqAll rest) k j := by
  cases rest with
  | nil =>
      simp only [seqAll, matches_empty_iff]
      constructor
      · exact fun h => ⟨j, h, rfl⟩
      · rintro ⟨k, h, rfl⟩
        exact h
  | cons next more => exact matches_seq_iff

theorem matches_seqAll_append {rs more : List Regex} : Matches text (seqAll (rs ++ more)) i j ↔
    ∃ k, Matches text (seqAll rs) i k ∧ Matches text (seqAll more) k j := by
  induction rs generalizing i with
  | nil =>
      simp only [List.nil_append, seqAll, matches_empty_iff]
      constructor
      · exact fun h => ⟨i, rfl, h⟩
      · rintro ⟨k, rfl, h⟩
        exact h
  | cons r rest ih =>
      simp only [List.cons_append, matches_seqAll_cons, ih]
      constructor
      · rintro ⟨l, hl, k, hk, hj⟩
        exact ⟨k, ⟨l, hl, hk⟩, hj⟩
      · rintro ⟨k, ⟨l, hl, hk⟩, hj⟩
        exact ⟨l, hl, k, hk, hj⟩

theorem isOrdered_seqAll {rs : List Regex} (h : ∀ r ∈ rs, r.IsOrdered) : (seqAll rs).IsOrdered := by
  induction rs with
  | nil => trivial
  | cons r rest ih =>
      obtain ⟨hr, hrest⟩ := List.forall_mem_cons.mp h
      cases rest with
      | nil => exact hr
      | cons next more => exact ⟨hr, ih hrest⟩

-- Characters of one set in a row.
theorem matches_run_iff {set : CharSet} : Matches text (.times (.chars set) 0 none) i j ↔
    i ≤ j ∧ ∀ k, i ≤ k → k < j → ∃ c, text[k]? = some c ∧ set.contains c = true := by
  have hchain : ∀ n i, Chain (Matches text (.chars set)) n i j ↔
      j = i + n ∧ ∀ k, i ≤ k → k < j → ∃ c, text[k]? = some c ∧ set.contains c = true := by
    intro n
    induction n with
    | zero =>
        intro i
        simp only [Chain, Nat.add_zero]
        refine ⟨fun h => ⟨h.symm, fun k hi hj => ?_⟩, fun h => h.1.symm⟩
        omega
    | succ n ih =>
        intro i
        simp only [Chain, matches_chars_iff, ih]
        constructor
        · rintro ⟨_, ⟨rfl, hfirst⟩, hj, hrest⟩
          refine ⟨by omega, fun k hi hk => ?_⟩
          rcases Nat.eq_or_lt_of_le hi with rfl | hlt
          · exact hfirst
          · exact hrest k hlt hk
        · rintro ⟨hj, hall⟩
          exact ⟨i + 1, ⟨rfl, hall i (Nat.le_refl _) (by omega)⟩, by omega,
            fun k hi hk => hall k (by omega) hk⟩
  simp only [matches_times_iff, Allows, hchain]
  constructor
  · rintro ⟨n, -, hj, hall⟩
    exact ⟨by omega, hall⟩
  · rintro ⟨hle, hall⟩
    exact ⟨j - i, ⟨Nat.zero_le _, by simp⟩, by omega, hall⟩

theorem matches_textStart_iff (hi : i ≤ text.length) :
    Matches text (.look .textStart) i j ↔ i = 0 ∧ j = i := by
  rw [matches_look_iff, and_comm]
  refine and_congr_left fun _ => ?_
  cases i with
  | zero => simp [Look.holds, charBefore?]
  | succ i => simpa [Look.holds, charBefore?] using Nat.lt_of_succ_le hi

theorem matches_textEnd_iff : Matches text (.look .textEnd) i j ↔ text.length ≤ i ∧ j = i := by
  rw [matches_look_iff, and_comm]
  simp [Look.holds]

end

-- The text with every character as the one form that all its cases share.
def folded (text : List Char) : List Char := text.map Text.foldCase

theorem length_folded (text : List Char) : (folded text).length = text.length := List.length_map _

-- The flags of a pattern that looks for a text in any case, and else has none.
structure Mode.IsPlain (mode : Mode) : Prop where
  anyCase : mode.anyCase = true
  unicode : mode.unicode = true
  loose : mode.loose = false
  multiLine : mode.multiLine = false
  dotAll : mode.dotAll = false
  returns : mode.returns = false

section

variable {mode : Mode} (hmode : mode.IsPlain) {text needle : List Char} {i j : Nat}

section

include hmode

theorem contains_charSet {c d : Char} :
    (mode.charSet c).contains d = true ↔ Text.foldCase c = Text.foldCase d := by
  simp [Mode.charSet, Mode.folded, hmode.unicode, hmode.anyCase, CharSet.closeCase, CharSet.contains,
    Text.sameIgnoringCase]

theorem contains_anyChar {c : Char} : (anyChar mode).contains c = true ↔ c ≠ '\n' := by
  have hten : c = '\n' ↔ c.toNat = 10 := by
    rw [← Char.toNat_inj]
    rfl
  have hset : anyChar mode = .compl (.ranges [(10, 10)]) := by
    simp [anyChar, hmode.dotAll, hmode.returns]
  simp only [hset, CharSet.contains, Text.inRanges, ne_eq, hten]
  simp only [List.any_cons, List.any_nil, Bool.or_false, Bool.not_eq_true', decide_eq_false_iff_not]
  omega

end

def literals (mode : Mode) (needle : List Char) : List Regex := needle.map fun c => .chars (mode.charSet c)

theorem drop_folded_of_getElem? {c : Char} (hc : text[i]? = some c) :
    (folded text).drop i = Text.foldCase c :: (folded text).drop (i + 1) := by
  obtain ⟨hlt, rfl⟩ := List.getElem?_eq_some_iff.mp hc
  have hlength : i < (folded text).length := by rwa [length_folded]
  rw [List.drop_eq_getElem_cons hlength]
  simp [folded]

theorem drop_folded_of_none (hc : text[i]? = none) : (folded text).drop i = [] := by
  rw [List.drop_eq_nil_iff, length_folded]
  exact List.getElem?_eq_none_iff.mp hc

include hmode

theorem matches_literals_iff : Matches text (seqAll (literals mode needle)) i j ↔
    j = i + needle.length ∧ folded needle <+: (folded text).drop i := by
  induction needle generalizing i with
  | nil => simp [literals, seqAll, matches_empty_iff, folded]
  | cons c rest ih =>
      simp only [literals, List.map_cons, matches_seqAll_cons, matches_chars_iff] at ih ⊢
      simp only [ih, contains_charSet hmode]
      cases hd : text[i]? with
      | none =>
          rw [drop_folded_of_none hd]
          simp [folded]
      | some d =>
          rw [drop_folded_of_getElem? hd]
          simp only [folded, List.map_cons, List.cons_prefix_cons, List.length_cons, Option.some.injEq,
            exists_eq_left']
          constructor
          · rintro ⟨_, ⟨rfl, hsame⟩, rfl, hrest⟩
            exact ⟨by omega, hsame, hrest⟩
          · rintro ⟨hj, hsame, hrest⟩
            exact ⟨i + 1, ⟨rfl, hsame⟩, by omega, hrest⟩

omit hmode in
theorem mem_stretch_iff {c : Char} : c ∈ (text.take j).drop i ↔ ∃ k, i ≤ k ∧ k < j ∧ text[k]? = some c := by
  rw [List.mem_iff_getElem?]
  simp only [List.getElem?_drop, List.getElem?_take]
  constructor
  · rintro ⟨n, hn⟩
    split at hn
    · next hlt => exact ⟨i + n, Nat.le_add_right i n, hlt, hn⟩
    · cases hn
  · rintro ⟨k, hi, hj, hk⟩
    obtain ⟨n, rfl⟩ := Nat.exists_eq_add_of_le hi
    exact ⟨n, by rw [if_pos hj, hk]⟩

-- A run of any characters goes on as long as no line feed comes.
theorem matches_anyRun_iff (hj : j ≤ text.length) :
    Matches text (anyRun mode) i j ↔ i ≤ j ∧ '\n' ∉ (text.take j).drop i := by
  rw [anyRun, matches_run_iff]
  refine and_congr_right fun _ => ?_
  simp only [contains_anyChar hmode, mem_stretch_iff]
  constructor
  · rintro hall ⟨k, hi, hk, hfeed⟩
    obtain ⟨c, hc, hother⟩ := hall k hi hk
    exact hother (Option.some.inj (hc.symm.trans hfeed))
  · intro hnone k hi hk
    refine ⟨text[k], List.getElem?_eq_getElem (by omega), fun hfeed => hnone ⟨k, hi, hk, ?_⟩⟩
    rw [← hfeed]
    exact List.getElem?_eq_getElem (by omega)

theorem anyRun_self (hi : i ≤ text.length) : Matches text (anyRun mode) i i :=
  (matches_anyRun_iff hmode hi).mpr ⟨Nat.le_refl i, by simp⟩

-- Where the text may stand anywhere, it is found wherever it stands.
theorem occursIn_containing_iff :
    (seqAll (anyRun mode :: (literals mode needle ++ [anyRun mode]))).OccursIn text ↔
      folded needle <:+: folded text := by
  simp only [OccursIn, matches_seqAll_cons, matches_seqAll_append, matches_literals_iff hmode]
  constructor
  · rintro ⟨i, j, _, k, _, _, ⟨rfl, hfound⟩, _⟩
    exact hfound.isInfix.trans (List.drop_suffix k _).isInfix
  · rintro ⟨before, behind, hfound⟩
    have hlength := congrArg List.length hfound
    simp only [List.length_append, length_folded] at hlength
    refine ⟨before.length, before.length + needle.length, by omega, before.length,
      anyRun_self hmode (by omega), _, ⟨rfl, ?_⟩, _, anyRun_self hmode (by omega), matches_empty_iff.mpr rfl⟩
    rw [← hfound, List.append_assoc, List.drop_left]
    exact List.prefix_append _ _

-- At the start of a text, it is found if no line feed comes behind it.
theorem occursIn_beginning_iff :
    (seqAll (.look .textStart :: (literals mode needle ++ [anyRun mode, .look .textEnd]))).OccursIn text ↔
      folded needle <+: folded text ∧ '\n' ∉ text.drop needle.length := by
  simp only [OccursIn, matches_seqAll_cons, matches_seqAll_append, matches_literals_iff hmode]
  constructor
  · rintro ⟨i, j, hi, k, hstart, _, ⟨rfl, hfound⟩, l, hrun, m, hend, _⟩
    obtain ⟨rfl, rfl⟩ := (matches_textStart_iff hi).mp hstart
    obtain ⟨hend, -⟩ := matches_textEnd_iff.mp hend
    rw [Nat.zero_add] at hrun
    rw [List.drop_zero] at hfound
    have hlength := hfound.length_le
    rw [length_folded, length_folded] at hlength
    have hl : l ≤ text.length := matches_within hlength hrun
    have hnone := ((matches_anyRun_iff hmode hl).mp hrun).2
    rw [List.take_of_length_le hend] at hnone
    exact ⟨hfound, hnone⟩
  · rintro ⟨hfound, hnone⟩
    have hlength := hfound.length_le
    rw [length_folded, length_folded] at hlength
    refine ⟨0, text.length, Nat.zero_le _, 0, (matches_textStart_iff (Nat.zero_le _)).mpr ⟨rfl, rfl⟩,
      needle.length, ⟨by omega, by rwa [List.drop_zero]⟩, text.length, ?_, text.length, ?_,
      matches_empty_iff.mpr rfl⟩
    · rw [matches_anyRun_iff hmode (Nat.le_refl _), List.take_length]
      exact ⟨hlength, hnone⟩
    · exact matches_textEnd_iff.mpr ⟨Nat.le_refl _, rfl⟩

-- At the end of a text, it is found if no line feed comes in front of it.
theorem occursIn_ending_iff :
    (seqAll (.look .textStart :: anyRun mode :: (literals mode needle ++ [.look .textEnd]))).OccursIn text ↔
      folded needle <:+ folded text ∧ '\n' ∉ text.take (text.length - needle.length) := by
  simp only [OccursIn, matches_seqAll_cons, matches_seqAll_append, matches_literals_iff hmode]
  constructor
  · rintro ⟨i, j, hi, k, hstart, l, hrun, _, ⟨rfl, hfound⟩, m, hend, _⟩
    obtain ⟨rfl, rfl⟩ := (matches_textStart_iff hi).mp hstart
    obtain ⟨hend, -⟩ := matches_textEnd_iff.mp hend
    have hl : l ≤ text.length := matches_within hi hrun
    have hnone := ((matches_anyRun_iff hmode hl).mp hrun).2
    have hlength := hfound.length_le
    rw [length_folded, List.length_drop, length_folded] at hlength
    have hrest : folded needle = (folded text).drop l := hfound.eq_of_length (by
      rw [length_folded, List.length_drop, length_folded]
      omega)
    refine ⟨hrest ▸ List.drop_suffix l _, ?_⟩
    rwa [show text.length - needle.length = l by omega]
  · rintro ⟨hfound, hnone⟩
    have hlength := hfound.length_le
    have hrest := List.suffix_iff_eq_drop.mp hfound
    rw [length_folded, length_folded] at hlength hrest
    refine ⟨0, text.length, Nat.zero_le _, 0, (matches_textStart_iff (Nat.zero_le _)).mpr ⟨rfl, rfl⟩,
      text.length - needle.length, ?_, text.length, ⟨by omega, ?_⟩, text.length, ?_, matches_empty_iff.mpr rfl⟩
    · exact (matches_anyRun_iff hmode (Nat.sub_le _ _)).mpr ⟨Nat.zero_le _, hnone⟩
    · rw [← hrest]
    · exact matches_textEnd_iff.mpr ⟨Nat.le_refl _, rfl⟩

omit hmode in
-- A pattern that looks for a text is decided, whether it stands anywhere, at the start or at the end.
theorem isMatch_row {rs : List Regex} (h : ∀ r ∈ rs, r = anyRun mode ∨ (∃ set, r = .chars set) ∨ ∃ l, r = .look l) :
    isMatch (seqAll rs) text = true ↔ (seqAll rs).OccursIn text := by
  refine isMatch_iff (isOrdered_seqAll fun r hr => ?_)
  rcases h r hr with rfl | ⟨set, rfl⟩ | ⟨l, rfl⟩
  · exact ⟨trivial, by simp⟩
  · trivial
  · trivial

end

end DocStore.Regex
