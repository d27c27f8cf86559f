import DocStore.Regex.Pattern

namespace DocStore.Regex

def toItem (part : Regex × Nat) : Item := .piece part.1 part.2

-- The expression, unless it takes too much memory.
def accepted (r : Regex) : Except RegexError Regex :=
  if r.memory.isTooLarge then .error .tooLarge else .ok r

theorem eq_of_accepted {r s : Regex} (h : accepted r = .ok s) : s = r := by
  unfold accepted at h
  split at h
  · cases h
  · exact (Except.ok.inj h).symm

-- The place behind a part of the pattern that has been read.
def after (p : Place) (parts : List (Regex × Nat)) (tail : List Char) : Place :=
  { p with items := (parts.map toItem).reverse ++ p.items, rest := tail }

-- Whether the text adds the parts to the row wherever it stands in a pattern, unless a question
-- mark follows it.
def Reads (mode : Mode) (text : List Char) (parts : List (Regex × Nat)) : Prop :=
  ∃ steps ≤ text.length, ∀ (p : Place) (fuel : Nat) (tail : List Char), p.mode = mode →
    p.rest = text ++ tail → tail.head? ≠ some '?' →
      readAll (fuel + steps) p = readAll fuel (after p parts tail)

section

variable {mode : Mode}

theorem reads_nil (mode : Mode) : Reads mode [] [] := by
  refine ⟨0, Nat.le_refl _, fun p fuel tail _ hrest _ => ?_⟩
  have hplace : after p [] tail = p := by
    obtain ⟨_, _, _, _, _, rest⟩ := p
    cases hrest
    rfl
  rw [hplace, Nat.add_zero]

theorem Reads.append {text next : List Char} {parts more : List (Regex × Nat)} (h : Reads mode text parts)
    (hnext : Reads mode next more) (hhead : next.head? ≠ some '?') :
    Reads mode (text ++ next) (parts ++ more) := by
  obtain ⟨steps, hsteps, hread⟩ := h
  obtain ⟨others, hothers, hreadNext⟩ := hnext
  refine ⟨others + steps, by simp only [List.length_append]; omega, fun p fuel tail hmode hrest htail => ?_⟩
  have hjoined : (next ++ tail).head? ≠ some '?' := by
    cases next with
    | nil => exact htail
    | cons c rest => exact hhead
  rw [← Nat.add_assoc, hread p _ (next ++ tail) hmode (by rw [hrest, List.append_assoc]) hjoined,
    hreadNext (after p parts (next ++ tail)) fuel tail hmode rfl htail]
  simp [after]

theorem head?_escapeChar (c : Char) : (escapeChar c).head? ≠ some '?' := by
  unfold escapeChar
  split
  · exact fun h => absurd (Option.some.inj h) (by decide)
  · next hmeta =>
      intro h
      cases h
      exact hmeta rfl

theorem head?_flatMap_escapeChar (text : List Char) : (text.flatMap escapeChar).head? ≠ some '?' := by
  cases text with
  | nil => decide
  | cons c rest =>
      have hhead := head?_escapeChar c
      rw [List.flatMap_cons]
      cases hc : escapeChar c with
      | nil =>
          unfold escapeChar at hc
          split at hc <;> cases hc
      | cons first more =>
          rw [hc] at hhead
          exact hhead

section

variable (hloose : mode.loose = false)

include hloose

theorem readAll_cons {p : Place} {c : Char} {rest : List Char} (fuel : Nat) (hmode : p.mode = mode)
    (hrest : p.rest = c :: rest) : readAll (fuel + 1) p = (do readAll fuel (← advance p c rest)) := by
  have hskip : skip p.mode p.rest = c :: rest := by
    rw [hmode, skip, hloose, hrest]
    rfl
  rw [readAll, hskip]

-- An element that is read in one step.
theorem reads_of_advance {c : Char} {rest : List Char} {r : Regex}
    (hadvance : ∀ (p : Place) (tail : List Char), p.mode = mode →
      advance p c (rest ++ tail) = .ok (append p r 0 tail)) : Reads mode (c :: rest) [(r, 0)] := by
  refine ⟨1, by simp, fun p fuel tail hmode hrest _ => ?_⟩
  have hstep := hadvance p tail hmode
  rw [readAll_cons hloose fuel hmode hrest, List.append_eq, hstep]
  rfl

-- What `escape` makes of a character stands for the character.
theorem reads_escapeChar (c : Char) : Reads mode (escapeChar c) [(.chars (mode.charSet c), 0)] := by
  by_cases hmeta : isMeta c = true
  · rw [escapeChar, if_pos hmeta]
    refine reads_of_advance hloose fun p tail hmode => ?_
    have hatom : escapeAtom p.mode ([c] ++ tail) = .ok (.literal c, tail) := by
      rw [List.singleton_append, escapeAtom, if_pos hmeta]
    change (escapeAtom p.mode ([c] ++ tail) >>= fun read =>
      pure (append p (ofAtom p.mode read.1) 0 read.2)) = _
    rw [hatom, ← hmode]
    rfl
  · rw [escapeChar, if_neg hmeta]
    refine reads_of_advance hloose fun p tail hmode => ?_
    rw [← hmode, List.nil_append]
    unfold advance
    split
    case h_13 => rfl
    all_goals exact absurd rfl hmeta

theorem reads_escape (text : List Char) :
    Reads mode (text.flatMap escapeChar) (text.map fun c => (.chars (mode.charSet c), 0)) := by
  induction text with
  | nil => exact reads_nil mode
  | cons c rest ih =>
      rw [List.flatMap_cons, List.map_cons]
      exact (reads_escapeChar hloose c).append ih (head?_flatMap_escapeChar rest)

theorem reads_start : Reads mode ['^'] [(.look (startLook mode), 0)] :=
  reads_of_advance hloose fun p tail hmode => by
    rw [← hmode]
    rfl

theorem reads_end : Reads mode ['$'] [(.look (endLook mode), 0)] :=
  reads_of_advance hloose fun p tail hmode => by
    rw [← hmode]
    rfl

end

-- Any characters in a row, line feeds apart where the mode has it so.
def anyRun (mode : Mode) : Regex := .times (.chars (anyChar mode)) 0 none

theorem repeatLast_of_head {p : Place} {r : Regex} {depth : Nat} {items : List Item}
    (hitems : p.items = .piece r depth :: items) {tail : List Char} (htail : tail.head? ≠ some '?') (low : Nat)
    (high : Option Nat) : repeatLast p low high tail =
      .ok { p with items := .piece (repeated r low high) (depth + 1) :: items, rest := tail } := by
  unfold repeatLast
  rw [hitems]
  split
  · next r' depth' items' heq =>
      cases heq
      split
      · exact absurd rfl htail
      · rfl
  · next hnone => exact absurd rfl (hnone r depth items)

theorem reads_anyRun (hloose : mode.loose = false) (hunicode : mode.unicode = true) :
    Reads mode ['.', '*'] [(anyRun mode, 1)] := by
  refine ⟨2, Nat.le_refl _, fun p fuel tail hmode hrest htail => ?_⟩
  have hdot : advance p '.' ('*' :: tail) = .ok (append p (.chars (anyChar mode)) 0 ('*' :: tail)) := by
    have hp : p.mode.unicode = true := by rw [hmode, hunicode]
    change (if p.mode.unicode = true then
      Except.ok (append p (.chars (anyChar p.mode)) 0 ('*' :: tail)) else .error RegexError.notText) = _
    rw [if_pos hp, hmode]
  have hstar : advance (append p (.chars (anyChar mode)) 0 ('*' :: tail)) '*' tail =
      .ok (after p [(anyRun mode, 1)] tail) := by
    change repeatLast (append p (.chars (anyChar mode)) 0 ('*' :: tail)) 0 none tail = _
    rw [repeatLast_of_head (p := append p (.chars (anyChar mode)) 0 ('*' :: tail)) rfl htail]
    rfl
  rw [readAll_cons hloose (fuel + 1) hmode hrest, List.append_eq, List.singleton_append, hdot]
  change readAll (fuel + 1) (append p (.chars (anyChar mode)) 0 ('*' :: tail)) = _
  rw [readAll_cons hloose fuel (p := append p (.chars (anyChar mode)) 0 ('*' :: tail)) hmode rfl, hstar]
  rfl

theorem readAll_nil {p : Place} (hrest : p.rest = []) (fuel : Nat) : readAll fuel p = finish p := by
  cases fuel with
  | zero => rfl
  | succ fuel =>
      have hskip : skip p.mode p.rest = [] := by
        rw [hrest, skip]
        split <;> rfl
      rw [readAll, hskip]

theorem foldl_max_le {parts : List (Regex × Nat)} {bound start : Nat} (hstart : start ≤ bound)
    (h : ∀ part ∈ parts, part.2 ≤ bound) : parts.foldl (fun n p => max n p.2) start ≤ bound := by
  induction parts generalizing start with
  | nil => exact hstart
  | cons part rest ih =>
      obtain ⟨hpart, hrest⟩ := List.forall_mem_cons.mp h
      exact ih (Nat.max_le.mpr ⟨hstart, hpart⟩) hrest

-- A pattern whose parts are known stands for the row of them. They are no deeper than one level,
-- so only their memory can be too much.
theorem ofPattern_of_reads {pattern : String} {parts : List (Regex × Nat)}
    (h : Reads mode pattern.toList parts) (hdepth : ∀ part ∈ parts, part.2 ≤ 1) :
    ofPattern mode pattern = accepted (seqAll (parts.map (·.1))) := by
  obtain ⟨steps, hsteps, hread⟩ := h
  let start : Place := ⟨mode, [], [], [], [], pattern.toList⟩
  have hwhole := hread start (pattern.toList.length + 1 - steps) [] rfl (List.append_nil _).symm (by decide)
  rw [Nat.sub_add_cancel (by omega)] at hwhole
  have hpieces : pieces (after start parts []).items = parts := by
    simp [pieces, after, start, List.filterMap_map, toItem, Function.comp_def]
  have hdeepest : deepest parts ≤ 1 := foldl_max_le (Nat.zero_le 1) hdepth
  have hrow : branchesOf (after start parts []).branches (after start parts []).items =
      (seqAll (parts.map (·.1)), deepest parts + if (after start parts []).items.length ≤ 1 then 0 else 1) := by
    change inRow (after start parts []).items = _
    rw [inRow, hpieces]
  have hshallow : ¬ maxDepth <
      deepest parts + if (after start parts []).items.length ≤ 1 then 0 else 1 := by
    unfold maxDepth
    split <;> omega
  rw [ofPattern, hwhole, readAll_nil rfl, finish, hrow]
  simp only [hshallow, if_false]
  rfl

end

end DocStore.Regex
