import DocStore.Proofs.Time.Timestamp
import DocStore.Record
import Mathlib.Data.List.Forall2

namespace DocStore.Record

open Timestamp

-- What is made of a value when dates are looked for: a text that is a timestamp
-- becomes the date, and everything else stays.
inductive DatedValue : Value → Value → Prop
  | date {text : String} {millis : Int64} (h : Denotes text millis.toInt) :
      DatedValue (.string text) (.date millis)
  | other {v : Value}
      (h : ∀ (text : String) (millis : Int64), v = .string text → ¬ Denotes text millis.toInt) : DatedValue v v

-- The same keys in the same order, with values that became dates or stayed.
def Dated (d dated : Document) : Prop :=
  List.Forall₂ (fun field read => read.1 = field.1 ∧ DatedValue field.2 read.2) d dated

section

variable {s : String} {day : List Char} {c : Char} {rest : List Char}

theorem utf8EncodeChar_of_ascii (hc : c.toNat < 128) : String.utf8EncodeChar c = [c.toUInt8] := by
  have hle : c.toNat ≤ 0x7f := by omega
  exact String.utf8EncodeChar_eq_singleton (if_pos hle)

-- Characters of one byte stand where their bytes do.
theorem getElem?_utf8 {front : List Char} (hfront : ∀ c ∈ front, c.toNat < 128)
    (hs : s.toList = front ++ rest) {i : Nat} (hi : i < front.length) :
    s.toUTF8.data.toList[i]? = front[i]?.map Char.toUInt8 := by
  have hbytes : s.toUTF8.data.toList = s.toList.flatMap String.utf8EncodeChar := by
    rw [String.toUTF8_eq_toByteArray, ← String.utf8Encode_toList, List.utf8Encode, List.toList_data_toByteArray]
  have hone : front.flatMap String.utf8EncodeChar = front.map Char.toUInt8 := by
    rw [List.map_eq_flatMap]
    exact List.flatMap_congr fun c hc => utf8EncodeChar_of_ascii (hfront c hc)
  rw [hbytes, hs, List.flatMap_append, hone, List.getElem?_append_left (by simpa using hi), List.getElem?_map]

theorem toUInt8_eq_iff (hc : c.toNat < 128) : c.toUInt8 = 'T'.toUInt8 ↔ c = 'T' := by
  constructor
  · intro h
    have hnat : c.toNat % 256 = 84 := congrArg UInt8.toNat h
    exact Char.toNat_inj.mp (by change c.toNat = 84; omega)
  · rintro rfl
    rfl

theorem looksLikeTimestamp_iff (hday : DayText day) (hc : c.toNat < 128) (hs : s.toList = day ++ c :: rest) :
    looksLikeTimestamp s = true ↔ c = 'T' := by
  have hs' : s.toList = (day ++ [c]) ++ rest := by rw [hs, List.append_assoc, List.singleton_append]
  have hfront : ∀ d ∈ day ++ [c], d.toNat < 128 := by
    intro d hd
    rcases List.mem_append.mp hd with hd | hd
    · exact hday.ascii d hd
    · rw [List.mem_singleton.mp hd]
      exact hc
  have hlength : (day ++ [c]).length = 11 := by simp [hday.length]
  have hfour := getElem?_utf8 hfront hs' (i := 4) (by omega)
  have hseven := getElem?_utf8 hfront hs' (i := 7) (by omega)
  have hten := getElem?_utf8 hfront hs' (i := 10) (by omega)
  rw [List.getElem?_append_left (by rw [hday.length]; decide), hday.dashes.1] at hfour
  rw [List.getElem?_append_left (by rw [hday.length]; decide), hday.dashes.2] at hseven
  rw [List.getElem?_append_right (by rw [hday.length]), hday.length] at hten
  have heleven : 11 ≤ s.toUTF8.data.toList.length := (List.getElem?_eq_some_iff.mp hten).1
  rw [← toUInt8_eq_iff hc]
  unfold looksLikeTimestamp hasByteAt
  dsimp only
  rw [hfour, hseven, hten]
  simp only [heleven, decide_true, Option.map_some, beq_self_eq_true, Bool.and_true, Bool.true_and]
  simp

end

theorem denotes_iff {s : String} {millis : Int} :
    Denotes s millis ↔ looksLikeTimestamp s = true ∧ lenientMillis? s = some millis := by
  constructor
  · intro h
    obtain ⟨day, hday, rest, hs⟩ := day_of_denotes h
    exact ⟨(looksLikeTimestamp_iff hday (by decide) hs).mpr rfl, lenientMillis?_of_denotes h⟩
  · rintro ⟨hlooks, hmillis⟩
    obtain ⟨day, separator, rest, hday, hseparator, hs, hdenotes⟩ := denotes_of_lenientMillis? hmillis
    have hc : separator.toNat < 128 := by
      simp only [Dialect.lenient, Bool.or_eq_true, beq_iff_eq] at hseparator
      rcases hseparator with (rfl | rfl) | rfl <;> decide
    exact hdenotes ((looksLikeTimestamp_iff hday hc hs).mp hlooks)

theorem toInt_of_denotes {s : String} {millis : Int} (h : Denotes s millis) : (Int64.ofInt millis).toInt = millis := by
  have hbounds := fits64_of_denotes h
  have hmax : (Integer.max64 : Int) = 9223372036854775807 := rfl
  simp only [Integer.fits64, decide_eq_true_eq, hmax] at hbounds
  exact Int64.toInt_ofInt_of_le (by omega) (by omega)

theorem coerceDate_of_denotes {s : String} {millis : Int} (h : Denotes s millis) :
    coerceDate (.string s) = .date (Int64.ofInt millis) := by
  obtain ⟨hlooks, hmillis⟩ := denotes_iff.mp h
  simp only [coerceDate, hlooks, if_true, hmillis]

theorem coerceDate_of_other {v : Value} (h : ∀ text millis, v = .string text → ¬ Denotes text millis) :
    coerceDate v = v := by
  cases v with
  | string s =>
      simp only [coerceDate]
      split
      · next hlooks =>
          cases hmillis : lenientMillis? s with
          | none => rfl
          | some millis => exact absurd (denotes_iff.mpr ⟨hlooks, hmillis⟩) (h s millis rfl)
      · rfl
  | _ => rfl

theorem datedValue_iff {v w : Value} : DatedValue v w ↔ w = coerceDate v := by
  constructor
  · intro h
    cases h with
    | date h => rw [coerceDate_of_denotes h, Int64.ofInt_toInt]
    | other h =>
        refine (coerceDate_of_other fun text millis htext hdenotes => ?_).symm
        refine h text (Int64.ofInt millis) htext ?_
        rw [toInt_of_denotes hdenotes]
        exact hdenotes
  · rintro rfl
    by_cases htext : ∃ text millis, v = .string text ∧ Denotes text millis
    · obtain ⟨text, millis, rfl, h⟩ := htext
      rw [coerceDate_of_denotes h]
      exact .date (by rw [toInt_of_denotes h]; exact h)
    · rw [coerceDate_of_other fun text millis hv h => htext ⟨text, millis, hv, h⟩]
      exact .other fun text millis hv h => htext ⟨text, millis.toInt, hv, h⟩

-- The dates that are looked for are found, and nothing else is changed.
theorem dated_iff {d dated : Document} : Dated d dated ↔ coerceDates d = dated := by
  have hfield : (fun field read : String × Value => read.1 = field.1 ∧ DatedValue field.2 read.2) =
      fun field read => (field.1, coerceDate field.2) = read := by
    funext field read
    obtain ⟨key, w⟩ := read
    rw [datedValue_iff, Prod.mk.injEq, eq_comm (a := key), eq_comm (a := w)]
  rw [Dated, hfield, ← List.forall₂_map_left_iff, List.forall₂_eq_eq_eq]
  rfl

end DocStore.Record
