import DocStore.Proofs.Time.Calendar
import DocStore.Time.Timestamp
import Mathlib.Data.List.Basic

namespace DocStore.Timestamp

open Calendar

-- A number in exactly so many digits.
structure Digits (count n : Nat) (text : List Char) : Prop where
  length : text.length = count
  digits : ∀ c ∈ text, c.isDigit = true
  value : Nat.ofDigitChars 10 text 0 = n

-- The thousandths of a second, of which digits beyond the third are cut off.
inductive Fraction : Nat → List Char → Prop
  | none : Fraction 0 []
  | point {n : Nat} {text : List Char} (hsome : text ≠ []) (hdigits : ∀ c ∈ text, c.isDigit = true)
      (hvalue : Nat.ofDigitChars 10 ((text ++ ['0', '0']).take 3) 0 = n) : Fraction n ('.' :: text)

-- The minutes east of Greenwich.
inductive Offset : Int → List Char → Prop
  | utc : Offset 0 ['Z']
  | smallUtc : Offset 0 ['z']
  | east {hours minutes : Nat} {hh mm : List Char} (hhours : Digits 2 hours hh) (hminutes : Digits 2 minutes mm)
      (hh23 : hours ≤ 23) (hm59 : minutes ≤ 59) : Offset (hours * 60 + minutes) ('+' :: (hh ++ ':' :: mm))
  | west {hours minutes : Nat} {hh mm : List Char} {sign : Char} (hsign : sign = '-' ∨ sign = '−')
      (hhours : Digits 2 hours hh) (hminutes : Digits 2 minutes mm) (hh23 : hours ≤ 23) (hm59 : minutes ≤ 59) :
      Offset (-(hours * 60 + minutes)) (sign :: (hh ++ ':' :: mm))

-- A point in time by the clock of a place, which may have a second 60.
structure Moment where
  year : Nat
  month : Nat
  day : Nat
  hour : Nat
  minute : Nat
  second : Nat
  thousandths : Nat
  offset : Int

namespace Moment

structure Valid (m : Moment) : Prop where
  date : IsDate m.year m.month m.day
  hour : m.hour ≤ 23
  minute : m.minute ≤ 59
  second : m.second ≤ 60

-- Milliseconds since 1970.
def millis (m : Moment) : Int :=
  let days : Int := daysBefore m.year m.month m.day - daysBefore 1970 1 1
  (((days * 24 + m.hour) * 60 + m.minute - m.offset) * 60 + m.second) * 1000 + m.thousandths

-- `2024-03-01T10:20:30.5+01:00`
inductive Written : Moment → List Char → Prop
  | of {m : Moment} {year month day hour minute second fraction offset : List Char}
      (hyear : Digits 4 m.year year) (hmonth : Digits 2 m.month month) (hday : Digits 2 m.day day)
      (hhour : Digits 2 m.hour hour) (hminute : Digits 2 m.minute minute) (hsecond : Digits 2 m.second second)
      (hfraction : Fraction m.thousandths fraction) (hoffset : Offset m.offset offset) :
      Written m (year ++ '-' :: (month ++ '-' :: (day ++ 'T' ::
        (hour ++ ':' :: (minute ++ ':' :: (second ++ (fraction ++ offset)))))))

end Moment

-- Whether a text is a timestamp, of so many milliseconds since 1970.
def Denotes (text : String) (millis : Int) : Prop :=
  ∃ m : Moment, m.Valid ∧ m.Written text.toList ∧ m.millis = millis

section

variable {count n : Nat} {text rest : List Char}

theorem isDigit_eq (c : Char) : Integer.isDigit c = c.isDigit := by
  rw [Bool.eq_iff_iff, Char.isDigit_iff_toNat]
  simp only [Integer.isDigit, Integer.digit?]
  split
  · next h => exact iff_of_true rfl h
  · next h => exact iff_of_false (by simp) h

theorem ofDigits_eq (h : ∀ c ∈ text, c.isDigit = true) :
    Integer.ofDigits text = Nat.ofDigitChars 10 text 0 := by
  rw [Integer.ofDigits, Nat.ofDigitChars_eq_foldl]
  refine List.foldl_ext _ _ _ fun n c hc => ?_
  have hdigit : '0' ≤ c ∧ c ≤ '9' := Char.isDigit_iff_toNat.mp (h c hc)
  simp [Integer.digit?, hdigit]

theorem ofDigitChars_lt (h : ∀ c ∈ text, c.isDigit = true) :
    Nat.ofDigitChars 10 text 0 < 10 ^ text.length := by
  induction text with
  | nil => simp
  | cons c rest ih =>
      have hc : c.toNat ≤ 57 := (Char.isDigit_iff_toNat.mp (h c List.mem_cons_self)).2
      have hrest := ih fun d hd => h d (List.mem_cons_of_mem c hd)
      rw [Nat.ofDigitChars_cons, Nat.ofDigitChars_eq_ofDigitChars_zero, List.length_cons, Nat.pow_succ]
      have hhead : 10 ^ rest.length * (10 * 0 + (c.toNat - '0'.toNat)) ≤ 10 ^ rest.length * 9 :=
        Nat.mul_le_mul_left _ (by change 10 * 0 + (c.toNat - 48) ≤ 9; omega)
      omega

theorem Digits.lt (h : Digits count n text) : n < 10 ^ count := by
  obtain ⟨rfl, hdigits, rfl⟩ := h
  exact ofDigitChars_lt hdigits

theorem number?_eq_some_iff :
    number? count text = some (n, rest) ↔ ∃ digits, Digits count n digits ∧ text = digits ++ rest := by
  unfold number?
  simp only [Bool.and_eq_true, decide_eq_true_eq, List.all_eq_true, isDigit_eq]
  constructor
  · intro h
    split at h
    · next hdigits =>
        obtain ⟨rfl, rfl⟩ : Integer.ofDigits (text.take count) = n ∧ text.drop count = rest := by
          simpa using h
        exact ⟨text.take count, ⟨hdigits.1, hdigits.2, (ofDigits_eq hdigits.2).symm⟩,
          (List.take_append_drop count text).symm⟩
    · cases h
  · rintro ⟨digits, ⟨rfl, hdigits, rfl⟩, rfl⟩
    rw [List.take_left, List.drop_left, if_pos ⟨rfl, hdigits⟩, ofDigits_eq hdigits]

theorem number?_append (h : Digits count n text) : number? count (text ++ rest) = some (n, rest) :=
  number?_eq_some_iff.mpr ⟨text, h, rfl⟩

theorem number?_self (h : Digits count n text) : number? count text = some (n, []) :=
  number?_eq_some_iff.mpr ⟨text, h, (List.append_nil text).symm⟩

theorem expect?_cons (c : Char) (rest : List Char) : expect? c (c :: rest) = some rest := if_pos rfl

theorem expect?_eq_some_iff {c : Char} : expect? c text = some rest ↔ text = c :: rest := by
  unfold expect?
  split
  · next d others =>
      by_cases hd : d = c <;> simp [hd]
  · simp

end

-- The first nine digits of a fraction are its nanoseconds, the first three its thousandths.
theorem thousandths_eq {digits : List Char} (hsome : digits ≠ []) (hdigits : ∀ c ∈ digits, c.isDigit = true) :
    Integer.ofDigits (digits.take 9) * Nat.pow 10 (9 - (digits.take 9).length) / 1000000 =
      Nat.ofDigitChars 10 ((digits ++ ['0', '0']).take 3) 0 := by
  rw [ofDigits_eq fun c hc => hdigits c (List.mem_of_mem_take hc)]
  match digits with
  | [] => exact absurd rfl hsome
  | [a] =>
      simp [Nat.ofDigitChars_cons]
      omega
  | [a, b] =>
      simp [Nat.ofDigitChars_cons]
      omega
  | a :: b :: c :: rest =>
      have hfirst : (a :: b :: c :: rest).take 9 = [a, b, c] ++ rest.take 6 := rfl
      have hthree : (a :: b :: c :: rest ++ ['0', '0']).take 3 = [a, b, c] := rfl
      have hlt : Nat.ofDigitChars 10 (rest.take 6) 0 < 10 ^ (rest.take 6).length :=
        ofDigitChars_lt fun d hd => hdigits d (by simp [List.mem_of_mem_take hd])
      have hlength : (rest.take 6).length ≤ 6 := List.length_take_le 6 rest
      rw [hfirst, hthree, Nat.ofDigitChars_append, Nat.ofDigitChars_eq_ofDigitChars_zero, List.length_append]
      generalize Nat.ofDigitChars 10 (rest.take 6) 0 = cut at hlt ⊢
      generalize Nat.ofDigitChars 10 [a, b, c] 0 = kept
      generalize (rest.take 6).length = k at hlt hlength ⊢
      interval_cases k <;> simp at hlt ⊢ <;> omega

theorem takeWhile_digits {digits rest : List Char} (hdigits : ∀ c ∈ digits, c.isDigit = true)
    (hrest : ∀ c ∈ rest.head?, c.isDigit = false) :
    (digits ++ rest).takeWhile Integer.isDigit = digits := by
  rw [List.takeWhile_append_of_pos fun c hc => (isDigit_eq c).trans (hdigits c hc)]
  cases rest with
  | nil => simp
  | cons c rest => simp [isDigit_eq, hrest c rfl]

theorem fraction?_of_fraction {n : Nat} {text rest : List Char} (h : Fraction n text)
    (hrest : ∀ c ∈ rest.head?, c.isDigit = false ∧ c ≠ '.') :
    ∃ nanos, fraction? (text ++ rest) = some (nanos, rest) ∧ nanos / 1000000 = n := by
  cases h with
  | none =>
      refine ⟨0, ?_, rfl⟩
      rw [List.nil_append]
      unfold fraction?
      split
      · exact absurd rfl (hrest '.' rfl).2
      · rfl
  | @point n digits hsome hdigits hvalue =>
      refine ⟨_, ?_, (thousandths_eq hsome hdigits).trans hvalue⟩
      have hwhile := takeWhile_digits hdigits fun c hc => (hrest c hc).1
      simp [fraction?, hwhile, hsome]

theorem fraction?_ok {nanos : Nat} {text rest : List Char} (h : fraction? text = some (nanos, rest)) :
    ∃ fraction, text = fraction ++ rest ∧ Fraction (nanos / 1000000) fraction := by
  unfold fraction? at h
  split at h
  · next after =>
      dsimp only at h
      split at h
      · cases h
      · next hsome =>
          cases h
          have hdigits : ∀ c ∈ after.takeWhile Integer.isDigit, c.isDigit = true := fun c hc => by
            rw [← isDigit_eq]
            exact List.all_eq_true.mp List.all_takeWhile c hc
          have hsplit := List.prefix_iff_eq_append.mp (List.takeWhile_prefix Integer.isDigit (l := after))
          refine ⟨'.' :: after.takeWhile Integer.isDigit, by rw [List.cons_append, hsplit], ?_⟩
          have hne : after.takeWhile Integer.isDigit ≠ [] := by simpa using hsome
          exact .point hne hdigits (thousandths_eq hne hdigits).symm
  · cases h
    exact ⟨[], rfl, .none⟩

theorem offset?_of_offset {minutes : Int} {text : List Char} (h : Offset minutes text) :
    offset? .lenient text = some (minutes * 60) := by
  cases h with
  | utc => rfl
  | smallUtc => rfl
  | @east hours minutes hh mm hhours hminutes hh23 hm59 =>
      simp [offset?, number?_append hhours, expect?_cons, number?_self hminutes, hh23, hm59]
      omega
  | @west hours minutes hh mm sign hsign hhours hminutes hh23 hm59 =>
      rcases hsign with rfl | rfl
      · simp [offset?, number?_append hhours, expect?_cons, number?_self hminutes, hh23, hm59, Dialect.lenient]
        omega
      · simp [offset?, number?_append hhours, expect?_cons, number?_self hminutes, hh23, hm59, Dialect.lenient]
        omega

theorem offset?_ok {text : List Char} {seconds : Int} (h : offset? .lenient text = some seconds) :
    ∃ minutes, Offset minutes text ∧ seconds = minutes * 60 := by
  unfold offset? at h
  split at h
  · cases h
    exact ⟨0, .utc, rfl⟩
  · cases h
    exact ⟨0, .smallUtc, rfl⟩
  · next sign rest _ _ =>
      simp only [Option.bind_eq_bind, Option.bind_eq_some_iff, Prod.exists, number?_eq_some_iff,
        expect?_eq_some_iff] at h
      obtain ⟨hours, after, ⟨hh, hhours, rfl⟩, colon, rfl, minutes, last, ⟨mm, hminutes, rfl⟩, h⟩ := h
      split at h
      · cases h
      · next hlimits =>
          simp only [Bool.or_eq_true, decide_eq_true_eq, not_or, not_lt, Bool.not_eq_true',
            Bool.not_eq_false, List.isEmpty_iff] at hlimits
          obtain ⟨⟨hh23, hm59⟩, rfl⟩ := hlimits
          rw [List.append_nil]
          split at h
          · next hplus =>
              cases h
              rw [beq_iff_eq.mp hplus]
              exact ⟨_, .east hhours hminutes hh23 hm59, by push_cast; omega⟩
          · split at h
            · next hminus =>
                cases h
                have hsign : sign = '-' ∨ sign = '−' := by
                  rcases Bool.or_eq_true_iff.mp hminus with h | h
                  · exact Or.inl (beq_iff_eq.mp h)
                  · exact Or.inr (Char.toNat_inj.mp (beq_iff_eq.mp h))
                exact ⟨_, .west hsign hhours hminutes hh23 hm59, by push_cast; omega⟩
            · cases h
  · cases h

-- The fields that are read are those of the moment.
structure Fields.Of (f : Fields) (m : Moment) : Prop where
  date : f.date = ⟨m.year, m.month, m.day⟩
  hour : f.hour = m.hour
  minute : f.minute = m.minute
  second : f.second = m.second
  thousandths : f.nanos / 1000000 = m.thousandths
  offset : f.offset = m.offset * 60

section

variable {m : Moment} {f : Fields} {text : List Char}

theorem head?_of_offset {minutes : Int} (h : Offset minutes text) :
    ∀ c ∈ text.head?, c.isDigit = false ∧ c ≠ '.' := by
  rintro c hc
  cases h with
  | west hsign => rcases hsign with rfl | rfl <;> cases hc <;> decide
  | _ => cases hc; decide

theorem separator?_of_lenient (rest : List Char) : separator? .lenient ('T' :: rest) = some rest := rfl

theorem separator?_eq_some_iff {dialect : Dialect} {rest : List Char} :
    separator? dialect text = some rest ↔ ∃ c, dialect.isSeparator c = true ∧ text = c :: rest := by
  unfold separator?
  split
  · next c others =>
      by_cases hc : dialect.isSeparator c = true <;> simp [hc]
  · simp

theorem fields?_of_written (h : m.Written text) : ∃ f, fields? .lenient text = some f ∧ f.Of m := by
  cases h with
  | of hyear hmonth hday hhour hminute hsecond hfraction hoffset =>
      obtain ⟨nanos, hnanos, hthousandths⟩ := fraction?_of_fraction hfraction (head?_of_offset hoffset)
      refine ⟨⟨⟨m.year, m.month, m.day⟩, m.hour, m.minute, m.second, nanos, m.offset * 60⟩, ?_,
        ⟨rfl, rfl, rfl, rfl, hthousandths, rfl⟩⟩
      refine Option.bind_eq_some_iff.mpr ⟨_, number?_append hyear, ?_⟩
      refine Option.bind_eq_some_iff.mpr ⟨_, expect?_cons _ _, ?_⟩
      refine Option.bind_eq_some_iff.mpr ⟨_, number?_append hmonth, ?_⟩
      refine Option.bind_eq_some_iff.mpr ⟨_, expect?_cons _ _, ?_⟩
      refine Option.bind_eq_some_iff.mpr ⟨_, number?_append hday, ?_⟩
      refine Option.bind_eq_some_iff.mpr ⟨_, separator?_of_lenient _, ?_⟩
      refine Option.bind_eq_some_iff.mpr ⟨_, number?_append hhour, ?_⟩
      refine Option.bind_eq_some_iff.mpr ⟨_, expect?_cons _ _, ?_⟩
      refine Option.bind_eq_some_iff.mpr ⟨_, number?_append hminute, ?_⟩
      refine Option.bind_eq_some_iff.mpr ⟨_, expect?_cons _ _, ?_⟩
      refine Option.bind_eq_some_iff.mpr ⟨_, number?_append hsecond, ?_⟩
      refine Option.bind_eq_some_iff.mpr ⟨_, hnanos, ?_⟩
      exact Option.bind_eq_some_iff.mpr ⟨_, offset?_of_offset hoffset, rfl⟩

-- What is read has the form of a timestamp, with `T` or something in its place.
theorem fields?_ok (h : fields? .lenient text = some f) :
    ∃ (m : Moment) (year month day : List Char) (separator : Char) (rest : List Char), f.Of m ∧
      Digits 4 m.year year ∧ Digits 2 m.month month ∧ Digits 2 m.day day ∧
      Dialect.lenient.isSeparator separator = true ∧
      text = year ++ '-' :: (month ++ '-' :: (day ++ separator :: rest)) ∧
      (separator = 'T' → m.Written text) := by
  unfold fields? at h
  simp only [Option.bind_eq_bind, ↓Option.bind_eq_some_iff, ↓Prod.exists, number?_eq_some_iff,
    expect?_eq_some_iff, separator?_eq_some_iff] at h
  obtain ⟨y, _, ⟨year, hyear, rfl⟩, _, rfl, mo, _, ⟨month, hmonth, rfl⟩, _, rfl, d, _, ⟨day, hday, rfl⟩, _,
    ⟨separator, hseparator, rfl⟩, hh, _, ⟨hour, hhour, rfl⟩, _, rfl, mi, _, ⟨minute, hminute, rfl⟩, _, rfl, ss, _,
    ⟨second, hsecond, rfl⟩, nanos, _, hnanos, offset, hoffset, hf⟩ := h
  obtain ⟨fraction, rfl, hfraction⟩ := fraction?_ok hnanos
  obtain ⟨minutes, hminutes, rfl⟩ := offset?_ok hoffset
  cases hf
  refine ⟨⟨y, mo, d, hh, mi, ss, nanos / 1000000, minutes⟩, year, month, day, separator, _,
    ⟨rfl, rfl, rfl, rfl, rfl, rfl⟩, hyear, hmonth, hday, hseparator, rfl, ?_⟩
  rintro rfl
  exact .of hyear hmonth hday hhour hminute hsecond hfraction hminutes

-- A second 60 is the first one of the next minute.
theorem total?_of_isValid (h : f.isValid = true) :
    (f.total? .lenient).map (·.fdiv 1000000) = some (f.seconds f.second * 1000 + (f.nanos / 1000000 : Nat)) := by
  have hnanos : (f.nanos : Int) / 1000000 = (f.nanos / 1000000 : Nat) := by push_cast; rfl
  unfold Fields.total?
  rw [h]
  by_cases hsecond : f.second = 60
  · have hnext : f.seconds f.second = f.seconds 59 + 1 := by
      unfold Fields.seconds
      rw [hsecond]
      push_cast
      omega
    rw [if_neg (by decide), if_pos hsecond, if_pos (by decide), hnext]
    simp only [Option.map_some, Int.fdiv_eq_ediv_of_nonneg _ (by decide : (0 : Int) ≤ 1000000), nanosPerSecond]
    congr 1
    push_cast
    omega
  · rw [if_neg (by decide), if_neg hsecond]
    simp only [Option.map_some, Int.fdiv_eq_ediv_of_nonneg _ (by decide : (0 : Int) ≤ 1000000), nanosPerSecond]
    congr 1
    push_cast
    omega

theorem isValid_iff_valid (h : f.Of m) : f.isValid = true ↔ m.Valid := by
  unfold Fields.isValid
  rw [h.date, h.hour, h.minute, h.second, Bool.and_eq_true, isValid_iff, decide_eq_true_iff]
  constructor
  · rintro ⟨hdate, hhour, hminute, hsecond⟩
    exact ⟨hdate, hhour, hminute, hsecond⟩
  · rintro ⟨hdate, hhour, hminute, hsecond⟩
    exact ⟨hdate, hhour, hminute, hsecond⟩

theorem seconds_eq_millis (h : f.Of m) (hv : m.Valid) :
    f.seconds f.second * 1000 + (f.nanos / 1000000 : Nat) = m.millis := by
  unfold Fields.seconds Moment.millis
  rw [h.date, h.hour, h.minute, h.second, h.thousandths, h.offset, toDays_eq hv.date]
  push_cast
  omega

-- The day of a timestamp as it is written: ten characters of one byte each.
structure DayText (day : List Char) : Prop where
  length : day.length = 10
  ascii : ∀ c ∈ day, c.toNat < 128
  dashes : day[4]? = some '-' ∧ day[7]? = some '-'

theorem dayText_of_digits {y mo d : Nat} {year month day : List Char} (hyear : Digits 4 y year)
    (hmonth : Digits 2 mo month) (hday : Digits 2 d day) : DayText (year ++ '-' :: (month ++ '-' :: day)) := by
  have hsmall {c : Char} (hc : c.isDigit = true) : c.toNat < 128 := by
    have hle : c.toNat ≤ 57 := (Char.isDigit_iff_toNat.mp hc).2
    omega
  refine ⟨by simp [hyear.length, hmonth.length, hday.length], fun c hc => ?_, ?_, ?_⟩
  · simp only [List.mem_append, List.mem_cons] at hc
    rcases hc with hc | rfl | hc | rfl | hc
    · exact hsmall (hyear.digits c hc)
    · decide
    · exact hsmall (hmonth.digits c hc)
    · decide
    · exact hsmall (hday.digits c hc)
  · simp [hyear.length]
  · simp [List.getElem?_append, hyear.length, hmonth.length]

theorem lenientMillis?_of_denotes {s : String} {millis : Int} (h : Denotes s millis) :
    lenientMillis? s = some millis := by
  obtain ⟨m, hvalid, hwritten, rfl⟩ := h
  obtain ⟨f, hf, hof⟩ := fields?_of_written hwritten
  rw [lenientMillis?, parse?, hf, Option.bind_some, total?_of_isValid ((isValid_iff_valid hof).mpr hvalid),
    seconds_eq_millis hof hvalid]

-- A quarter of a second behind half past, seven hours east of Greenwich.
example : lenientMillis? "2024-03-01T10:20:30.25+07:00" = some 1709263230250 := by decide +kernel

theorem day_of_denotes {s : String} {millis : Int} (h : Denotes s millis) :
    ∃ day, DayText day ∧ ∃ rest, s.toList = day ++ 'T' :: rest := by
  obtain ⟨m, -, hwritten, -⟩ := h
  generalize s.toList = text at hwritten
  cases hwritten with
  | of hyear hmonth hday =>
      refine ⟨_, dayText_of_digits hyear hmonth hday, ?_⟩
      simp

-- A text that is read as a point in time denotes it, if it parts the day and the time by `T`.
theorem denotes_of_lenientMillis? {s : String} {millis : Int} (h : lenientMillis? s = some millis) :
    ∃ day separator rest, DayText day ∧ Dialect.lenient.isSeparator separator = true ∧
      s.toList = day ++ separator :: rest ∧ (separator = 'T' → Denotes s millis) := by
  obtain ⟨total, htotal, rfl⟩ := Option.map_eq_some_iff.mp h
  obtain ⟨f, hf, hsum⟩ := Option.bind_eq_some_iff.mp htotal
  obtain ⟨m, year, month, day, separator, rest, hof, hyear, hmonth, hday, hseparator, htext, hwritten⟩ :=
    fields?_ok hf
  refine ⟨_, separator, rest, dayText_of_digits hyear hmonth hday, hseparator, by simp [htext], fun hT => ?_⟩
  have hisValid : f.isValid = true := by
    by_contra hnot
    rw [Fields.total?, if_pos (by simpa using hnot)] at hsum
    cases hsum
  have hvalid := (isValid_iff_valid hof).mp hisValid
  have hmillis := total?_of_isValid hisValid
  rw [hsum, Option.map_some, Option.some.injEq, seconds_eq_millis hof hvalid] at hmillis
  exact ⟨m, hvalid, hwritten hT, hmillis.symm⟩

theorem Offset.bounds {minutes : Int} (h : Offset minutes text) : -1439 ≤ minutes ∧ minutes ≤ 1439 := by
  cases h <;> omega

theorem Fraction.lt {n : Nat} (h : Fraction n text) : n < 1000 := by
  cases h with
  | none => decide
  | @point n digits hsome hdigits hvalue =>
      have hall : ∀ c ∈ (digits ++ ['0', '0']).take 3, c.isDigit = true := fun c hc => by
        rcases List.mem_append.mp (List.mem_of_mem_take hc) with hc | hc
        · exact hdigits c hc
        · simp only [List.mem_cons, List.not_mem_nil, or_false, or_self] at hc
          rw [hc]
          decide
      have hlt := ofDigitChars_lt hall
      have hpow : 10 ^ ((digits ++ ['0', '0']).take 3).length ≤ 10 ^ 3 :=
        Nat.pow_le_pow_right (by decide) (List.length_take_le _ _)
      omega

-- Timestamps have years of four digits, so that their milliseconds fit.
theorem fits64_of_denotes {s : String} {millis : Int} (h : Denotes s millis) : Integer.fits64 millis = true := by
  obtain ⟨m, hvalid, hwritten, rfl⟩ := h
  generalize s.toList = text at hwritten
  cases hwritten with
  | of hyear _ _ _ _ _ hfraction hoffset =>
      have hdays := daysBefore_le hvalid.date
      have hepoch : daysBefore 1970 1 1 ≤ 366 * 1970 + 396 := daysBefore_le ⟨by decide, by decide⟩
      have hfour := hyear.lt
      have hthousandths := hfraction.lt
      have hminutes := hoffset.bounds
      have hhour := hvalid.hour
      have hminute := hvalid.minute
      have hsecond := hvalid.second
      have hmax : (Integer.max64 : Int) = 9223372036854775807 := rfl
      simp only [Integer.fits64, decide_eq_true_eq, hmax, Moment.millis]
      omega

end

end DocStore.Timestamp
