import CodeAtlas.Basic
import CodeAtlas.Text.Quoted
import CodeAtlas.Time.Timestamp

/-! Reading a timestamp. The date is a calendar date or a week date, with or without hyphens; any one
    character may separate it from the time; the time has hours and as many of minutes, seconds and a
    fraction as are given; a zone is the letter Z or a signed time. Nothing is taken for granted about
    the ranges of the numbers until all of them have been read. -/

namespace CodeAtlas.Timestamp

/-- Why a text is no timestamp. -/
inductive Refusal where
  | malformed (s : String)
  | year (n : Nat)
  | month
  | day
  | hour
  | minute
  | second
  | offset (micro : Int)
deriving DecidableEq, Repr

/-- A span of time as whole days and what is left, each part only when it is not zero. -/
def spanText (micro : Int) : String :=
  let days := micro.fdiv 86400000000
  let rest := (micro.fmod 86400000000).toNat
  let seconds := rest / 1000000
  let micros := rest % 1000000
  let parts := (if days = 0 then [] else ["days=" ++ toString days]) ++
    (if seconds = 0 then [] else ["seconds=" ++ toString seconds]) ++
    (if micros = 0 then [] else ["microseconds=" ++ toString micros])
  "datetime.timedelta(" ++ (if parts.isEmpty then "0" else ", ".intercalate parts) ++ ")"

def Refusal.message : Refusal → String
  | .malformed s => "Invalid isoformat string: " ++ Text.quoted s
  | .year n => "year " ++ toString n ++ " is out of range"
  | .month => "month must be in 1..12"
  | .day => "day is out of range for month"
  | .hour => "hour must be in 0..23"
  | .minute => "minute must be in 0..59"
  | .second => "second must be in 0..59"
  | .offset micro =>
    "offset must be a timedelta strictly between -timedelta(hours=24) and timedelta(hours=24), not "
      ++ spanText micro ++ "."

/-- The number written by the first `width` characters, which must be digits. -/
def number? : Nat → List Char → Nat → Option (Nat × List Char)
  | 0, cs, n => some (n, cs)
  | width + 1, c :: cs, n => if c.isDigit then number? width cs (n * 10 + (c.toNat - 48)) else none
  | _ + 1, [], _ => none

/-! ### Dates -/

/-- How many characters the date takes, which the characters after the year tell apart. After a week
    without hyphens, digits that go on in pairs are a separator and a time. -/
def dateLength? (cs : List Char) : Option Nat :=
  let n := cs.length
  if n = 7 then some 7
  else match cs.drop 4 with
    | '-' :: 'W' :: _ =>
      if n < 8 then none
      else match cs.drop 8 with
        | ['-'] => none
        | '-' :: _ :: c :: _ => some (if c.isDigit then 8 else 10)
        | '-' :: _ => some 10
        | _ => some 8
    | '-' :: _ => some 10
    | 'W' :: _ =>
      let run := 7 + ((cs.drop 7).takeWhile Char.isDigit).length
      some (if run < 9 then run else if run % 2 = 0 then 7 else 8)
    | _ => some 8

/-- The date of a day of a week, or nothing when the year has no such week. The weeks of year 0 lie
    before the calendar begins, in no month. -/
def ofWeek? (year week day : Nat) : Option (Nat × Nat × Nat) :=
  if week = 0 || Time.weeksInYear year < week || day = 0 || 7 < day then none
  else if year = 0 then some (1, 0, 0)
  else
    let n := Time.firstMonday year + (week - 1) * 7 + (day - 1)
    if n < 1 then none else some (Time.dateOfDay n.toNat)

/-- Takes a hyphen where the date uses them. -/
def hyphen? (used : Bool) : List Char → Option (List Char)
  | c :: cs => if used then if c = '-' then some cs else none else some (c :: cs)
  | [] => if used then none else some []

def date? (cs : List Char) : Option (Nat × Nat × Nat) := do
  let (year, afterYear) ← number? 4 cs 0
  let hyphens := afterYear.head? == some '-'
  let rest := if hyphens then afterYear.tail else afterYear
  match rest with
  | 'W' :: afterMark =>
    let (week, afterWeek) ← number? 2 afterMark 0
    if afterWeek.isEmpty then ofWeek? year week 1
    else
      let afterHyphen ← hyphen? hyphens afterWeek
      let (day, _) ← number? 1 afterHyphen 0
      ofWeek? year week day
  | _ =>
    let (month, afterMonth) ← number? 2 rest 0
    let afterHyphen ← hyphen? hyphens afterMonth
    let (day, afterDay) ← number? 2 afterHyphen 0
    if afterDay.isEmpty then some (year, month, day) else none

/-! ### Times -/

/-- A time of day, and whether something followed that did not belong to it. -/
structure TimeOfDay where
  hour : Nat
  minute : Nat
  second : Nat
  micro : Nat
  leftover : Bool

/-- The fraction of a second: at most six digits count, and more of them are passed over. -/
def fraction? (cs : List Char) : Option (Nat × Bool) := do
  let width := min 6 cs.length
  let (n, rest) ← number? width cs 0
  some (n * 10 ^ (6 - width), !(rest.dropWhile Char.isDigit).isEmpty)

/-- Reads pairs of digits onto those already read: at most three in all, and `colons` tells whether
    colons separate them. -/
def pairs? : Nat → Option Bool → List Nat → List Char → Option (List Nat × Nat × Bool)
  | 0, _, read, cs => do
    let (micro, leftover) ← fraction? cs
    some (read, micro, leftover)
  | fuel + 1, colons, read, cs => do
    let (n, rest) ← number? 2 cs 0
    let read := read ++ [n]
    match rest with
    | [] => some (read, 0, false)
    | [c] => if c.toNat < 0x80 then some (read, 0, true) else none
    | c :: more =>
      let colons := colons.getD (c == ':')
      if colons && c == ':' then pairs? fuel (some colons) read more
      else if c == '.' || c == ',' then
        let (micro, leftover) ← fraction? more
        some (read, micro, leftover)
      else if colons then none
      else pairs? fuel (some colons) read rest

def time? (cs : List Char) : Option TimeOfDay := do
  let (read, micro, leftover) ← pairs? 3 none [] cs
  some ⟨read.getD 0 0, read.getD 1 0, read.getD 2 0, micro, leftover⟩

def isZoneMark (c : Char) : Bool := c == '+' || c == '-' || c == 'Z'

/-- A zone from its mark on, in microseconds ahead of universal time. A fraction counts only beside a
    whole number of seconds that is not zero. -/
def zone? : List Char → Option Int
  | ['Z'] => some 0
  | 'Z' :: _ => none
  | mark :: cs => do
    let t ← time? cs
    if t.leftover then none
    else
      let seconds := t.hour * 3600 + t.minute * 60 + t.second
      let n : Int := if seconds = 0 then 0 else seconds * 1000000 + t.micro
      some (if mark = '-' then -n else n)
  | [] => none

/-- A time with its zone, if it has one. What follows a time before its zone does not matter. -/
def timeAndZone? (cs : List Char) : Option (TimeOfDay × Option Int) := do
  let t ← time? (cs.takeWhile fun c => !isZoneMark c)
  match cs.dropWhile fun c => !isZoneMark c with
  | [] => if t.leftover then none else some (t, none)
  | zone => do
    let offset ← zone? zone
    some (t, some offset)

/-- The date, the time and the zone as written, with no check of their ranges. -/
def parts? (cs : List Char) : Option (Timestamp) := do
  if cs.length < 7 then none
  let n ← dateLength? cs
  let (year, month, day) ← date? (cs.take n)
  let midnight : Timestamp := { year, month, day, offset := none }
  match cs.drop n with
  | [] => some midnight
  | _ :: rest =>
    let (t, offset) ← timeAndZone? rest
    some { midnight with hour := t.hour, minute := t.minute, second := t.second, micro := t.micro, offset }

/-- The ranges of all parts, in the order in which a fault in them is told. -/
def check (t : Timestamp) : Except Refusal Timestamp :=
  let offset := t.offset.getD 0
  if 86400000000 ≤ offset.natAbs then .error (.offset offset)
  else if t.year = 0 || 9999 < t.year then .error (.year t.year)
  else if t.month = 0 || 12 < t.month then .error .month
  else if t.day = 0 || Time.daysInMonth t.year t.month < t.day then .error .day
  else if 23 < t.hour then .error .hour
  else if 59 < t.minute then .error .minute
  else if 59 < t.second then .error .second
  else .ok t

def ofText (s : String) : Except Refusal Timestamp :=
  match parts? s.toList with
  | none => .error (.malformed s)
  | some t => t.check

end CodeAtlas.Timestamp
