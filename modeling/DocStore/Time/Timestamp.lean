import DocStore.Time.Calendar
import DocStore.Number.Integer

namespace DocStore.Timestamp

-- Where two accepted dialects differ.
structure Dialect where
  isSeparator : Char → Bool
  isMinus : Char → Bool
  -- Whether second 60 stands only for the last second of a month.
  leapAtMonthEnd : Bool

-- Date and time are parted by `T` or a space, a typographic minus is a minus,
-- and second 60 of any minute runs into the next one.
def Dialect.lenient : Dialect :=
  { isSeparator := fun c => c == 'T' || c == 't' || c == ' '
    isMinus := fun c => c == '-' || c.toNat == 0x2212
    leapAtMonthEnd := false }

-- Any one-byte separator; second 60 is the end of a month or nothing.
def Dialect.strict : Dialect :=
  { isSeparator := fun c => c.toNat < 128
    isMinus := (· == '-')
    leapAtMonthEnd := true }

def nanosPerSecond : Nat := 1000000000

-- A number of exactly `count` digits and the text behind it.
def number? (count : Nat) (text : List Char) : Option (Nat × List Char) :=
  let digits := text.take count
  if digits.length = count && digits.all Integer.isDigit
  then some (Integer.ofDigits digits, text.drop count)
  else none

def expect? (c : Char) : List Char → Option (List Char)
  | d :: rest => if d = c then some rest else none
  | [] => none

-- Nanoseconds behind the point; digits beyond the ninth count as nothing.
def fraction? (text : List Char) : Option (Nat × List Char) :=
  match text with
  | '.' :: rest =>
    let digits := rest.takeWhile Integer.isDigit
    if digits.isEmpty then none
    else
      let nine := digits.take 9
      some (Integer.ofDigits nine * Nat.pow 10 (9 - nine.length), rest.drop digits.length)
  | _ => some (0, text)

-- Seconds east of Greenwich, at the very end of the text.
def offset? (dialect : Dialect) (text : List Char) : Option Int :=
  match text with
  | ['Z'] => some 0
  | ['z'] => some 0
  | sign :: rest => do
    let (hours, rest) ← number? 2 rest
    let (minutes, rest) ← number? 2 (← expect? ':' rest)
    if 23 < hours || 59 < minutes || !rest.isEmpty then none
    else
      let seconds : Int := (hours * 3600 + minutes * 60 : Nat)
      if sign == '+' then some seconds
      else if dialect.isMinus sign then some (-seconds)
      else none
  | [] => none

-- What stands in a timestamp.
structure Fields where
  date : Calendar.Date
  hour : Nat
  minute : Nat
  second : Nat
  nanos : Nat
  offset : Int

def separator? (dialect : Dialect) : List Char → Option (List Char)
  | c :: rest => if dialect.isSeparator c then some rest else none
  | [] => none

def fields? (dialect : Dialect) (text : List Char) : Option Fields := do
  let (year, rest) ← number? 4 text
  let (month, rest) ← number? 2 (← expect? '-' rest)
  let (day, rest) ← number? 2 (← expect? '-' rest)
  let (hour, rest) ← number? 2 (← separator? dialect rest)
  let (minute, rest) ← number? 2 (← expect? ':' rest)
  let (second, rest) ← number? 2 (← expect? ':' rest)
  let (nanos, rest) ← fraction? rest
  let offset ← offset? dialect rest
  return { date := ⟨year, month, day⟩, hour, minute, second, nanos, offset }

def Fields.isValid (f : Fields) : Bool :=
  f.date.isValid && decide (f.hour ≤ 23 ∧ f.minute ≤ 59 ∧ f.second ≤ 60)

-- Seconds since 1970, to the given second of the minute.
def Fields.seconds (f : Fields) (second : Nat) : Int :=
  f.date.toDays * 86400 + (f.hour * 3600 + f.minute * 60 + second : Nat) - f.offset

-- Whether the second is the last one of a month.
def endsMonth (seconds : Int) : Bool :=
  let date := Calendar.Date.ofDays (seconds.fdiv 86400)
  seconds.fmod 86400 == 86399 && date.day == Calendar.daysInMonth date.year date.month

-- Nanoseconds since 1970, if there is such a point in time.
def Fields.total? (dialect : Dialect) (f : Fields) : Option Int :=
  if !f.isValid then none
  else if f.second = 60 then
    if !dialect.leapAtMonthEnd then some (f.seconds 59 * nanosPerSecond + (nanosPerSecond + f.nanos : Nat))
    else if endsMonth (f.seconds 59) then some (f.seconds 59 * nanosPerSecond + (nanosPerSecond - 1 : Nat))
    else none
  else some (f.seconds f.second * nanosPerSecond + f.nanos)

-- Nanoseconds since 1970.
def parse? (dialect : Dialect) (text : String) : Option Int :=
  (fields? dialect text.toList).bind (·.total? dialect)

-- Milliseconds since 1970, a started one counting toward the past.
def lenientMillis? (text : String) : Option Int :=
  (parse? .lenient text).map (·.fdiv 1000000)

-- Milliseconds since 1970, a started one counting toward 1970.
def strictMillis? (text : String) : Option Int :=
  (parse? .strict text).map (·.tdiv 1000000)

def padded (width : Nat) (n : Nat) : String :=
  let digits := Nat.toDigits 10 n
  String.ofList (List.replicate (width - digits.length) '0' ++ digits)

structure Parts where
  date : Calendar.Date
  hour : Nat
  minute : Nat
  second : Nat
  millis : Nat

def Parts.ofMillis (millis : Int) : Parts :=
  let seconds := millis.fdiv 1000
  let ofDay := (seconds.fmod 86400).toNat
  { date := Calendar.Date.ofDays (seconds.fdiv 86400)
    hour := ofDay / 3600
    minute := ofDay / 60 % 60
    second := ofDay % 60
    millis := (millis.fmod 1000).toNat }

def Parts.dateText (p : Parts) : String :=
  let sign := if p.date.year < 0 then "-" else ""
  sign ++ padded 4 p.date.year.natAbs ++ "-" ++ padded 2 p.date.month ++ "-" ++ padded 2 p.date.day

def Parts.timeText (hourDigits : Nat) (p : Parts) : String :=
  padded hourDigits p.hour ++ ":" ++ padded 2 p.minute ++ ":" ++ padded 2 p.second

-- Digits of the fraction without zeros at the end.
def Parts.fractionDigits (p : Parts) : String :=
  let digits := (padded 3 p.millis).toList
  String.ofList (digits.reverse.dropWhile (· == '0')).reverse

-- `2024-03-01 9:20:30.0 +00:00:00`, or the bare number outside the years
-- that have four digits.
def displayText (millis : Int) : String :=
  let p := Parts.ofMillis millis
  if -9999 ≤ p.date.year ∧ p.date.year ≤ 9999 then
    let fraction := if p.millis = 0 then "0" else p.fractionDigits
    p.dateText ++ " " ++ p.timeText 1 ++ "." ++ fraction ++ " +00:00:00"
  else toString millis

-- Whether a point in time has an internet timestamp of its own.
def hasInternetText (millis : Int) : Bool :=
  decide (0 ≤ millis ∧ (Parts.ofMillis millis).date.year ≤ 9999)

-- `1970-01-01T00:00:00Z`
def internetText (millis : Int) : String :=
  let p := Parts.ofMillis millis
  let fraction := if p.millis = 0 then "" else "." ++ p.fractionDigits
  p.dateText ++ "T" ++ p.timeText 2 ++ fraction ++ "Z"

end DocStore.Timestamp
