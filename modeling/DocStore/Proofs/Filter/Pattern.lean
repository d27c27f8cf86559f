import DocStore.Proofs.Filter.Equality
import DocStore.Proofs.Regex.Memory

namespace DocStore.Filter

-- The patterns for a text anywhere, at the start and at the end.
def containing (n : String) : String := ".*" ++ Regex.escape n ++ ".*"

def beginning (n : String) : String := "^" ++ Regex.escape n ++ ".*$"

def ending (n : String) : String := "^.*" ++ Regex.escape n ++ "$"

-- The text with every character as the one form that all its cases share.
def caseless (s : String) : List Char := Regex.folded s.toList

-- Whether the pattern is one that is accepted.
def Compiles (pattern : String) : Prop := ∃ r, Regex.ofPattern Regex.anyCaseMode pattern = .ok r

namespace Pattern

open Regex

-- What stands for the characters of a text.
def literalParts (n : String) : List (Regex × Nat) :=
  n.toList.map fun c => (.chars (anyCaseMode.charSet c), 0)

def anyPart : Regex × Nat := (anyRun anyCaseMode, 1)

def lookPart (l : Look) : Regex × Nat := (.look l, 0)

-- The parts that the patterns for a text are made of.
inductive IsPart : Regex × Nat → Prop where
  | any : IsPart anyPart
  | look (l : Look) : IsPart (lookPart l)
  | literal (set : CharSet) : IsPart (.chars set, 0)

-- Whether the text of a pattern is made of the parts.
structure IsMadeOf (text : List Char) (parts : List (Regex × Nat)) : Prop where
  reads : Reads anyCaseMode text parts
  isPart : ∀ part ∈ parts, IsPart part

theorem IsMadeOf.append {text next : List Char} {parts more : List (Regex × Nat)} (h : IsMadeOf text parts)
    (hnext : IsMadeOf next more) (hhead : next.head? ≠ some '?') : IsMadeOf (text ++ next) (parts ++ more) :=
  ⟨h.reads.append hnext.reads hhead, List.forall_mem_append.mpr ⟨h.isPart, hnext.isPart⟩⟩

theorem isMadeOf_any : IsMadeOf ['.', '*'] [anyPart] :=
  ⟨reads_anyRun rfl rfl, List.forall_mem_singleton.mpr .any⟩

theorem isMadeOf_start : IsMadeOf ['^'] [lookPart .textStart] :=
  ⟨reads_start rfl, List.forall_mem_singleton.mpr (.look _)⟩

theorem isMadeOf_end : IsMadeOf ['$'] [lookPart .textEnd] :=
  ⟨reads_end rfl, List.forall_mem_singleton.mpr (.look _)⟩

theorem isMadeOf_escape (n : String) : IsMadeOf (escape n).toList (literalParts n) := by
  rw [escape, String.toList_ofList]
  refine ⟨reads_escape rfl n.toList, fun part hpart => ?_⟩
  obtain ⟨c, -, rfl⟩ := List.mem_map.mp hpart
  exact .literal _

theorem head?_escape (n : String) : (escape n).toList.head? ≠ some '?' := by
  rw [escape, String.toList_ofList]
  exact head?_flatMap_escapeChar n.toList

theorem isMadeOf_containing (n : String) :
    IsMadeOf (containing n).toList ([anyPart] ++ literalParts n ++ [anyPart]) := by
  rw [containing, String.toList_append, String.toList_append]
  exact (isMadeOf_any.append (isMadeOf_escape n) (head?_escape n)).append isMadeOf_any (by decide)

theorem isMadeOf_beginning (n : String) : IsMadeOf (beginning n).toList
    ([lookPart .textStart] ++ literalParts n ++ ([anyPart] ++ [lookPart .textEnd])) := by
  rw [beginning, String.toList_append, String.toList_append]
  exact (isMadeOf_start.append (isMadeOf_escape n) (head?_escape n)).append
    (isMadeOf_any.append isMadeOf_end (by decide)) (by decide)

theorem isMadeOf_ending (n : String) : IsMadeOf (ending n).toList
    ([lookPart .textStart] ++ [anyPart] ++ literalParts n ++ [lookPart .textEnd]) := by
  rw [ending, String.toList_append, String.toList_append]
  exact ((isMadeOf_start.append isMadeOf_any (by decide)).append (isMadeOf_escape n)
    (head?_escape n)).append isMadeOf_end (by decide)

section

variable {pattern : String} {parts : List (Regex × Nat)} (h : IsMadeOf pattern.toList parts)

include h

theorem IsMadeOf.ofPattern : ofPattern anyCaseMode pattern = accepted (seqAll (parts.map (·.1))) := by
  refine ofPattern_of_reads h.reads fun part hpart => ?_
  cases h.isPart part hpart with
  | any => exact Nat.le_refl 1
  | look l => exact Nat.zero_le 1
  | literal set => exact Nat.zero_le 1

theorem IsMadeOf.compiles {n : Nat} (hlight : ∀ part ∈ parts, Light n part.1)
    (hsmall : n * parts.length + 1000 ≤ maxMemory) : Compiles pattern := by
  refine ⟨_, h.ofPattern.trans (Light.accepted (light_seqAll (n := n) fun r hr => ?_) ?_)⟩
  · obtain ⟨part, hpart, rfl⟩ := List.mem_map.mp hr
    exact hlight part hpart
  · rwa [List.length_map]

theorem IsMadeOf.isMatch_iff {r : Regex} {text : List Char} (hr : Regex.ofPattern anyCaseMode pattern = .ok r) :
    r.isMatch text = true ↔ (seqAll (parts.map (·.1))).OccursIn text := by
  rw [h.ofPattern] at hr
  rw [eq_of_accepted hr]
  have hrow : ∀ r ∈ parts.map (·.1), r = anyRun anyCaseMode ∨ (∃ set, r = .chars set) ∨ ∃ l, r = .look l := by
    intro r hmem
    obtain ⟨part, hpart, rfl⟩ := List.mem_map.mp hmem
    cases h.isPart part hpart with
    | any => exact Or.inl rfl
    | look l => exact Or.inr (Or.inr ⟨l, rfl⟩)
    | literal set => exact Or.inr (Or.inl ⟨set, rfl⟩)
  exact isMatch_row hrow

end

-- A text is short enough if each of its characters takes little and there are not too many.
theorem compiles_of_light {n : String} (hlight : ∀ c ∈ n.toList, Light 1300 (.chars (anyCaseMode.charSet c)))
    (hlength : n.toList.length ≤ 8000) :
    Compiles (containing n) ∧ Compiles (beginning n) ∧ Compiles (ending n) := by
  have hliterals : ∀ part ∈ literalParts n, Light 1300 part.1 := by
    intro part hpart
    obtain ⟨c, hc, rfl⟩ := List.mem_map.mp hpart
    exact hlight c hc
  have hany : ∀ part ∈ [anyPart], Light 1300 part.1 := List.forall_mem_singleton.mpr light_anyRun
  have hlook : ∀ l, ∀ part ∈ [lookPart l], Light 1300 part.1 := fun l =>
    List.forall_mem_singleton.mpr ((light_look l).mono (by decide))
  have hcount : (literalParts n).length = n.toList.length := List.length_map _
  refine ⟨(isMadeOf_containing n).compiles (n := 1300) ?_ ?_, (isMadeOf_beginning n).compiles (n := 1300) ?_ ?_,
    (isMadeOf_ending n).compiles (n := 1300) ?_ ?_⟩
  · simp only [List.forall_mem_append]
    exact ⟨⟨hany, hliterals⟩, hany⟩
  · simp only [List.length_append, hcount, List.length_singleton, maxMemory]
    omega
  · simp only [List.forall_mem_append]
    exact ⟨⟨hlook _, hliterals⟩, hany, hlook _⟩
  · simp only [List.length_append, hcount, List.length_singleton, maxMemory]
    omega
  · simp only [List.forall_mem_append]
    exact ⟨⟨⟨hlook _, hany⟩, hliterals⟩, hlook _⟩
  · simp only [List.length_append, hcount, List.length_singleton, maxMemory]
    omega

theorem light_dot : Light 1300 (.chars (anyCaseMode.charSet '.')) :=
  light_chars (by decide +kernel) (by decide +kernel)

theorem map_literalParts (n : String) : (literalParts n).map (·.1) = literals anyCaseMode n.toList := by
  simp [literalParts, literals, Function.comp_def]

theorem isPlain_anyCaseMode : anyCaseMode.IsPlain := ⟨rfl, rfl, rfl, rfl, rfl, rfl⟩

section

variable {n s : String} {r : Regex}

theorem isMatch_containing_iff (hr : Regex.ofPattern anyCaseMode (containing n) = .ok r) :
    r.isMatch s.toList = true ↔ caseless n <:+: caseless s := by
  rw [(isMadeOf_containing n).isMatch_iff hr, caseless, caseless,
    ← occursIn_containing_iff isPlain_anyCaseMode]
  simp [map_literalParts, anyPart]

theorem isMatch_beginning_iff (hr : Regex.ofPattern anyCaseMode (beginning n) = .ok r) :
    r.isMatch s.toList = true ↔ caseless n <+: caseless s ∧ '\n' ∉ s.toList.drop n.toList.length := by
  rw [(isMadeOf_beginning n).isMatch_iff hr, caseless, caseless,
    ← occursIn_beginning_iff isPlain_anyCaseMode]
  simp [map_literalParts, anyPart, lookPart]

theorem isMatch_ending_iff (hr : Regex.ofPattern anyCaseMode (ending n) = .ok r) :
    r.isMatch s.toList = true ↔
      caseless n <:+ caseless s ∧ '\n' ∉ s.toList.take (s.toList.length - n.toList.length) := by
  rw [(isMadeOf_ending n).isMatch_iff hr, caseless, caseless,
    ← occursIn_ending_iff isPlain_anyCaseMode]
  simp [map_literalParts, anyPart, lookPart]

end

end Pattern

-- One query document for each of the texts.
def containingClauses (path : String) (needles : List String) : List Value :=
  needles.map fun n => .document (patternOn path (containing n))

theorem containsEach_strings (path : String) (needles : List String) :
    containsEach path (needles.map .string) = .ok (containingClauses path needles) := by
  induction needles with
  | nil => rfl
  | cons n rest ih =>
      rw [List.map_cons, containsEach, ih]
      rfl

theorem containingClauses_documents (path : String) (needles : List String) :
    (containingClauses path needles).all (·.document?.isSome) = true := by
  simp [containingClauses, Value.document?]

section

variable {path : String} {d : Document} {s : String} (hpath : Text.startsWithChar '$' path = false)
  (hd : d.getPath? path = some (.string s))

include hpath hd

theorem holds_patternOn {pattern : String} {r : Regex} (hr : Regex.ofPattern Regex.anyCaseMode pattern = .ok r) :
    Selector.holds d (patternOn path pattern) = .ok (r.isMatch s.toList) := by
  have hfields : Document.isOperator [("$regex", .string pattern), ("$options", .string "i")] = true := rfl
  have hoptions : Selector.optionsOf [("$regex", .string pattern), ("$options", .string "i")] = "i" := rfl
  have hmode : Selector.modeOf "i" = Regex.anyCaseMode := by decide
  have hfirst : Selector.operator (some (.string s)) "i" "$regex" (.string pattern) = .ok (r.isMatch s.toList) := by
    change Selector.fitsRegex (some (.string s)) pattern "i" = _
    rw [Selector.fitsRegex, hmode, hr]
    rfl
  have hsecond : Selector.operator (some (.string s)) "i" "$options" (.string "i") = .ok true := rfl
  rw [patternOn, Selector.holds_of_path hpath, hd, Selector.condition]
  simp only [hfields, if_true, hoptions, Selector.operators, hfirst, hsecond]
  cases r.isMatch s.toList <;> rfl

theorem holds_of_isMatch_iff {pattern : String} {P : Prop} [Decidable P] (hcompile : Compiles pattern)
    (hmatch : ∀ r, Regex.ofPattern Regex.anyCaseMode pattern = .ok r → (r.isMatch s.toList = true ↔ P)) :
    Selector.holds d (patternOn path pattern) = .ok (decide P) := by
  obtain ⟨r, hr⟩ := hcompile
  rw [holds_patternOn hpath hd hr, Except.ok.injEq, Bool.eq_iff_iff, decide_eq_true_iff]
  exact hmatch r hr

theorem holds_containing {n : String} (hcompile : Compiles (containing n)) :
    Selector.holds d (patternOn path (containing n)) = .ok (decide (caseless n <:+: caseless s)) :=
  holds_of_isMatch_iff hpath hd hcompile fun _ => Pattern.isMatch_containing_iff

theorem holds_beginning {n : String} (hcompile : Compiles (beginning n)) :
    Selector.holds d (patternOn path (beginning n)) =
      .ok (decide (caseless n <+: caseless s ∧ '\n' ∉ s.toList.drop n.toList.length)) :=
  holds_of_isMatch_iff hpath hd hcompile fun _ => Pattern.isMatch_beginning_iff

theorem holds_ending {n : String} (hcompile : Compiles (ending n)) :
    Selector.holds d (patternOn path (ending n)) =
      .ok (decide (caseless n <:+ caseless s ∧ '\n' ∉ s.toList.take (s.toList.length - n.toList.length))) :=
  holds_of_isMatch_iff hpath hd hcompile fun _ => Pattern.isMatch_ending_iff

-- Of several texts it is enough that one is found, and the search ends there.
theorem anyOf_containingClauses {needles : List String} (hcompile : ∀ n ∈ needles, Compiles (containing n)) :
    Selector.anyOf d (containingClauses path needles) =
      .ok (decide (∃ n ∈ needles, caseless n <:+: caseless s)) := by
  induction needles with
  | nil => rfl
  | cons n rest ih =>
      obtain ⟨hfirst, hrest⟩ := List.forall_mem_cons.mp hcompile
      rw [containingClauses, List.map_cons, Selector.anyOf_cons _ (holds_containing hpath hd hfirst)]
      have hothers := ih hrest
      rw [containingClauses] at hothers
      by_cases hfound : caseless n <:+: caseless s
      · simp [hfound]
      · simpa [hfound] using hothers

theorem answers_contains (policy : CompositePolicy) {needles : List String} (hne : needles ≠ [])
    (hcompile : ∀ n ∈ needles, Compiles (containing n)) :
    (Filter.field path (.contains (needles.map .string))).Answers policy d
      (.ok (decide (∃ n ∈ needles, caseless n <:+: caseless s))) := by
  rcases needles with _ | ⟨n, _ | ⟨second, rest⟩⟩
  · exact absurd rfl hne
  · -- a single text has no `$or` around it
    refine ⟨patternOn path (containing n), rfl, ?_⟩
    simpa using holds_containing hpath hd (hcompile n List.mem_cons_self)
  · refine ⟨[("$or", .array (containingClauses path (n :: second :: rest)))], ?_, ?_⟩
    · have hclauses := containsEach_strings path (n :: second :: rest)
      simp only [compile, List.map_cons, compileCondition] at hclauses ⊢
      rw [hclauses]
      rfl
    · rw [Selector.holds_or (containingClauses_documents path _)]
      exact anyOf_containingClauses hpath hd hcompile

end

-- A text is found if it occurs, whatever the case, and of several texts if one of them does. At the
-- start of a text it is found if the text begins with it and has no line feed behind it, and at the
-- end if the text ends with it and has no line feed in front of it.
theorem answers_pattern {path : String} {d : Document} {s : String} (policy : CompositePolicy)
    (hpath : Text.startsWithChar '$' path = false) (hd : d.getPath? path = some (.string s)) :
    (∀ needles, needles ≠ [] → (∀ n ∈ needles, Compiles (containing n)) →
      (Filter.field path (.contains (needles.map .string))).Answers policy d
        (.ok (decide (∃ n ∈ needles, caseless n <:+: caseless s)))) ∧
    (∀ n, Compiles (beginning n) → (Filter.field path (.startsWith (.string n))).Answers policy d
      (.ok (decide (caseless n <+: caseless s ∧ '\n' ∉ s.toList.drop n.toList.length)))) ∧
    ∀ n, Compiles (ending n) → (Filter.field path (.endsWith (.string n))).Answers policy d
      (.ok (decide (caseless n <:+ caseless s ∧ '\n' ∉ s.toList.take (s.toList.length - n.toList.length)))) := by
  refine ⟨fun needles hne hcompile => ?_, fun n hcompile => ?_, fun n hcompile => ?_⟩
  · exact answers_contains hpath hd policy hne hcompile
  · exact ⟨patternOn path (beginning n), rfl, holds_beginning hpath hd hcompile⟩
  · exact ⟨patternOn path (ending n), rfl, holds_ending hpath hd hcompile⟩

-- A document with one text.
def titled (s : String) : Document := [("title", .string s)]

theorem getPath?_titled (s : String) : (titled s).getPath? "title" = some (.string s) := rfl

theorem compiles_dots {n : String} (h : ∀ c ∈ n.toList, c = '.') (hlength : n.toList.length ≤ 8000) :
    Compiles (containing n) ∧ Compiles (beginning n) ∧ Compiles (ending n) :=
  Pattern.compiles_of_light (fun c hc => h c hc ▸ Pattern.light_dot) hlength

-- A dot stands for itself. In `.b` it is found where two dots are not, and the text begins but does
-- not end with it.
theorem answers_pattern_oneLine :
    (Filter.field "title" (.contains [.string "..", .string "."])).Answers .strict (titled ".b") (.ok true) ∧
    (Filter.field "title" (.startsWith (.string "."))).Answers .strict (titled ".b") (.ok true) ∧
    (Filter.field "title" (.endsWith (.string "."))).Answers .strict (titled ".b") (.ok false) := by
  have hdots : ∀ n ∈ ["..", "."], Compiles (containing n) := by
    intro n hn
    simp only [List.mem_cons, List.not_mem_nil, or_false] at hn
    rcases hn with rfl | rfl <;> exact (compiles_dots (by simp) (by decide)).1
  obtain ⟨-, hbeginning, hending⟩ := compiles_dots (n := ".") (by simp) (by decide)
  obtain ⟨hcontains, hstarts, hends⟩ := answers_pattern .strict (by decide) (getPath?_titled ".b")
  have hfound := hcontains ["..", "."] (by decide) hdots
  have hstart := hstarts "." hbeginning
  have hend := hends "." hending
  rw [decide_eq_true (by decide +kernel)] at hfound hstart
  rw [decide_eq_false (by decide +kernel)] at hend
  exact ⟨hfound, hstart, hend⟩

-- A text of two lines is not found by what it begins or ends with.
theorem lines_not_found :
    (Compiles (beginning ".") ∧ caseless "." <+: caseless ".\nb" ∧
      (Filter.field "title" (.startsWith (.string "."))).Answers .strict (titled ".\nb") (.ok false)) ∧
    Compiles (ending ".") ∧ caseless "." <:+ caseless "b\n." ∧
      (Filter.field "title" (.endsWith (.string "."))).Answers .strict (titled "b\n.") (.ok false) := by
  obtain ⟨-, hbeginning, hending⟩ := compiles_dots (n := ".") (by simp) (by decide)
  have hstart := holds_beginning (by decide) (getPath?_titled ".\nb") hbeginning
  have hend := holds_ending (by decide) (getPath?_titled "b\n.") hending
  rw [decide_eq_false (by decide +kernel)] at hstart hend
  exact ⟨⟨hbeginning, by decide +kernel, _, rfl, hstart⟩, hending, by decide +kernel, _, rfl, hend⟩

end DocStore.Filter
