import SlideOverflow.Failure
import SlideOverflow.Text.Codes

/-! Dates and points in time, as metadata gives them, and their written forms. -/
namespace SlideOverflow.Metadata

structure Date where
  year : Nat
  month : Nat
  day : Nat
deriving DecidableEq, Repr

/-- A day and a time of day, to the microsecond. `offset` is the distance to universal time in
seconds, where it is known. -/
structure Moment where
  date : Date
  hour : Nat
  minute : Nat
  second : Nat
  micro : Nat
  offset : Option Int
deriving DecidableEq, Repr

def isLeapYear (year : Nat) : Bool :=
  year % 4 == 0 && (year % 100 != 0 || year % 400 == 0)

def monthLength (year month : Nat) : Nat :=
  if month == 2 then (if isLeapYear year then 29 else 28)
  else if [4, 6, 9, 11].contains month then 30 else 31

/-- Whether the calendar, from year 1 to 9999, has this day. -/
def Date.isValid (d : Date) : Bool :=
  1 ≤ d.year && d.year ≤ 9999 && 1 ≤ d.month && d.month ≤ 12 && 1 ≤ d.day &&
    d.day ≤ monthLength d.year d.month

def Date.number (d : Date) : Nat :=
  let past := d.year - 1
  let months := (List.range (d.month - 1)).map fun m => monthLength d.year (m + 1)
  past * 365 + past / 4 - past / 100 + past / 400 + months.foldl (· + ·) 0 + (d.day - 1)

def Moment.isValid (m : Moment) : Bool :=
  m.date.isValid && m.hour < 24 && m.minute < 60 && m.second < 60 &&
    (match m.offset with
    | some o => o.natAbs < 86400
    | none => true)

def Moment.instant? (m : Moment) : Option Int :=
  m.offset.map fun o =>
    (((m.date.number : Int) * 86400 + m.hour * 3600 + m.minute * 60 + m.second) - o) * 1000000 +
      m.micro

/-- Whether two moments are the same point in time, or the same local time. -/
def Moment.same (a b : Moment) : Bool :=
  match a.instant?, b.instant? with
  | some x, some y => x == y
  | none, none => a == b
  | _, _ => false

private def padded (width n : Nat) : List Char :=
  let ds := Nat.toDigits 10 n
  List.replicate (width - ds.length) '0' ++ ds

def Date.text (d : Date) : List Char :=
  padded 4 d.year ++ '-' :: padded 2 d.month ++ '-' :: padded 2 d.day

def offsetText (o : Int) : List Char :=
  (if o < 0 then '-' else '+') :: padded 2 (o.natAbs / 3600) ++ ':' ::
    padded 2 (o.natAbs / 60 % 60)

/-- Date and time with a separator between them; a fraction only where there is one. -/
def Moment.text (separator : Char) (m : Moment) : List Char :=
  m.date.text ++ separator :: padded 2 m.hour ++ ':' :: padded 2 m.minute ++ ':' ::
    padded 2 m.second ++ (if m.micro == 0 then [] else '.' :: padded 6 m.micro) ++
    (match m.offset with
    | some o => offsetText o
    | none => [])

def listed (parts : List (List Char)) : List Char :=
  ", ".toList.intercalate parts

def Date.shown (d : Date) : List Char :=
  "datetime.date(".toList ++ listed ([d.year, d.month, d.day].map (Nat.toDigits 10 ·)) ++ [')']

def offsetShown (o : Int) : List Char :=
  if o == 0 then "datetime.timezone.utc".toList
  else
    let seconds := (if o < 0 then 86400 - o.natAbs else o.natAbs)
    "datetime.timezone(datetime.timedelta(".toList ++
      (if o < 0 then "days=-1, ".toList else []) ++ "seconds=".toList ++
      Nat.toDigits 10 seconds ++ "))".toList

def Moment.shown (m : Moment) : List Char :=
  let seconds :=
    if m.micro != 0 then [m.second, m.micro] else if m.second != 0 then [m.second] else []
  let numbers := [m.date.year, m.date.month, m.date.day, m.hour, m.minute] ++ seconds
  "datetime.datetime(".toList ++
    listed (numbers.map (Nat.toDigits 10 ·) ++ (match m.offset with
      | some o => ["tzinfo=".toList ++ offsetShown o]
      | none => [])) ++ [')']

private def digitRun (least most : Nat) (cs : List Char) : Option (Nat × List Char) :=
  let ds := (cs.take most).takeWhile (Number.isDigitOf 10)
  if least ≤ ds.length then some (Number.positional 10 ds, cs.drop ds.length) else none

private def expect (p : Char → Bool) : List Char → Option (List Char)
  | c :: cs => if p c then some cs else none
  | [] => none

/-- The offset at the end of a moment: none written, the letter for universal time, or a sign with
hours and perhaps minutes. -/
def readOffset? (cs : List Char) : Option (Option Int) :=
  match cs.dropWhile fun c => c == ' ' || c == '\t' with
  | [] => if cs.isEmpty then some none else none
  | ['Z'] => some (some 0)
  | s :: cs => do
    guard (s == '+' || s == '-')
    let (hours, cs) ← digitRun 1 2 cs
    let minutes ← match cs with
      | [] => some 0
      | ':' :: cs => do
        let (minutes, cs) ← digitRun 2 2 cs
        guard cs.isEmpty
        some minutes
      | _ => none
    let seconds : Int := hours * 3600 + minutes * 60
    some (some (if s == '-' then -seconds else seconds))

def microseconds (ds : List Char) : Nat :=
  let kept := ds.take 6
  Number.positional 10 kept * Nat.pow 10 (6 - kept.length)

def readClock? (date : Date) (cs : List Char) : Option Moment := do
  let (hour, cs) ← digitRun 1 2 cs
  let cs ← expect (· == ':') cs
  let (minute, cs) ← digitRun 2 2 cs
  let cs ← expect (· == ':') cs
  let (second, cs) ← digitRun 2 2 cs
  let (fraction, cs) := match cs with
    | '.' :: cs => (cs.takeWhile (Number.isDigitOf 10), cs.dropWhile (Number.isDigitOf 10))
    | cs => ([], cs)
  let offset ← readOffset? cs
  some ⟨date, hour, minute, second, microseconds fraction, offset⟩

/-- Reads a date, or a date and a time behind a letter or blanks. Whether the calendar has the day
is not asked. -/
def readMoment? (cs : List Char) : Option (Date ⊕ Moment) := do
  let (year, cs) ← digitRun 4 4 cs
  let cs ← expect (· == '-') cs
  let (month, cs) ← digitRun 1 2 cs
  let cs ← expect (· == '-') cs
  let (day, cs) ← digitRun 1 2 cs
  let date : Date := ⟨year, month, day⟩
  match cs with
  | [] => some (.inl date)
  | t :: cs =>
    if t == 'T' || t == 't' then (readClock? date cs).map .inr
    else if t == ' ' || t == '\t' then
      (readClock? date (cs.dropWhile fun c => c == ' ' || c == '\t')).map .inr
    else none

end SlideOverflow.Metadata
