import ReactionLedger.Text.Quoted
import ReactionLedger.Text.Utf8
import ReactionLedger.Time.Literal

/-!
Reading the stamps that a store keeps as text: a calendar or week date, any one character, a time
with or without colons, and an offset.  The text is read by its bytes; past its end lie zero bytes.
-/

set_option autoImplicit false

namespace ReactionLedger.Stamp

inductive ReadFault where
  | malformed (source : String)
  | offset (micros : Int)
  | date (fault : Date.Fault)
  | time (fault : ClockTime.Fault)
deriving DecidableEq

def ReadFault.message : ReadFault → String
  | .malformed source => "Invalid isoformat string: " ++ Text.quoted source
  | .offset micros =>
      "offset must be a timedelta strictly between -timedelta(hours=24) and timedelta(hours=24)" ++
        ", not " ++ durationLiteral micros ++ "."
  | .date (.year year) => "year " ++ toString year ++ " is out of range"
  | .date .month => "month must be in 1..12"
  | .date .day => "day is out of range for month"
  | .time .hour => "hour must be in 0..23"
  | .time .minute => "minute must be in 0..59"
  | .time .second => "second must be in 0..59"
  | .time .micro => "microsecond must be in 0..999999"

abbrev Bytes := List UInt8

def byteAt (b : Bytes) (i : Nat) : UInt8 := b.getD i 0

def isDigitByte (x : UInt8) : Bool := 48 ≤ x && x ≤ 57

def isChar (b : Bytes) (i : Nat) (c : Char) : Bool := (byteAt b i).toNat == c.toNat

def digits (b : Bytes) : (i count : Nat) → Option Nat
  | _, 0 => some 0
  | i, n + 1 => do
    let head ← digits b i n
    let x := byteAt b (i + n)
    if isDigitByte x then some (10 * head + (x.toNat - 48)) else none

def digitRun (b : Bytes) (i : Nat) : Nat := ((b.drop i).takeWhile isDigitByte).length

/-- How many bytes the date takes.  A week date without hyphens ends so that the digits behind the
separator come in pairs. -/
def dateLength (b : Bytes) : Option Nat :=
  if b.length == 7 then some 7
  else if isChar b 4 '-' then
    if isChar b 5 'W' then
      if b.length < 8 then none
      else if b.length > 8 && isChar b 8 '-' then
        if b.length == 9 then none
        else if b.length > 10 && isDigitByte (byteAt b 10) then some 8
        else some 10
      else some 8
    else some 10
  else if isChar b 4 'W' then
    let stop := 7 + digitRun b 7
    if stop < 9 then some stop else if stop % 2 == 0 then some 7 else some 8
  else some 8

-- the weeks of year 0 lie before the calendar, in no month of it
def weekDate (year week day : Nat) : Option (Nat × Nat × Nat) :=
  if 1 ≤ week ∧ week ≤ Date.weeksInYear year ∧ 1 ≤ day ∧ day ≤ 7 then
    if year == 0 then some (1, 0, 0)
    else some (Date.civil (Date.firstMonday year + (week - 1) * 7 + day - 1))
  else none

def dateFields (b : Bytes) (length : Nat) : Option (Nat × Nat × Nat) := do
  let year ← digits b 0 4
  let hyphens := isChar b 4 '-'
  let i := if hyphens then 5 else 4
  if isChar b i 'W' then
    let week ← digits b (i + 1) 2
    let i := i + 3
    if i < length then
      if hyphens && !isChar b i '-' then none
      else weekDate year week (← digits b (if hyphens then i + 1 else i) 1)
    else weekDate year week 1
  else
    let month ← digits b i 2
    if hyphens && !isChar b (i + 2) '-' then none
    else some (year, month, ← digits b (if hyphens then i + 3 else i + 2) 2)

structure ClockFields where
  hour : Nat := 0
  minute : Nat := 0
  second : Nat := 0
  micro : Nat := 0

inductive FieldsEnd where
  | stopped (more : Bool)
  | fraction (i : Nat)

def pairs (b : Bytes) (stop : Nat) :
    (left : Nat) → (first colons : Bool) → (i : Nat) → Option (List Nat × FieldsEnd)
  | 0, _, _, i => some ([], .fraction i)
  | n + 1, first, colons, i => do
    let value ← digits b i 2
    let colon := isChar b (i + 2) ':'
    let colons := if first then colon else colons
    if i + 3 ≥ stop then some ([value], .stopped (byteAt b (i + 2) != 0))
    else if colons && colon then
      let (values, last) ← pairs b stop n false colons (i + 3)
      some (value :: values, last)
    else if isChar b (i + 2) '.' || isChar b (i + 2) ',' then some ([value], .fraction (i + 3))
    else if colons then none
    else
      let (values, last) ← pairs b stop n false colons (i + 2)
      some (value :: values, last)

def clockFields (b : Bytes) (i stop : Nat) : Option (ClockFields × Bool) := do
  let (values, last) ← pairs b stop 3 true true i
  let fields : ClockFields := ⟨values.getD 0 0, values.getD 1 0, values.getD 2 0, 0⟩
  match last with
  | .stopped more => some (fields, more)
  | .fraction j =>
    let places := min (stop - j) 6
    let micro ← digits b j places
    let rest := j + places + digitRun b (j + places)
    some ({ fields with micro := micro * tenTo (6 - places) }, byteAt b rest != 0)

def isZoneMark (x : UInt8) : Bool :=
  x.toNat == '+'.toNat || x.toNat == '-'.toNat || x.toNat == 'Z'.toNat

def timeFields (b : Bytes) (i : Nat) : Option (ClockFields × Option Int) := do
  let mark := i + ((b.drop i).takeWhile fun x => !isZoneMark x).length
  let (fields, more) ← clockFields b i mark
  if mark ≥ b.length then if more then none else some (fields, none)
  else if isChar b mark 'Z' then
    if byteAt b (mark + 1) == 0 then some (fields, some 0) else none
  else
    let (zone, more) ← clockFields b (mark + 1) b.length
    let seconds : Int := zone.hour * 3600 + zone.minute * 60 + zone.second
    let sign : Int := if isChar b mark '-' then -1 else 1
    if more then none
    -- an offset of zero seconds is universal time, whatever its fraction
    else some (fields, some (if seconds == 0 then 0 else sign * (seconds * 1000000 + zone.micro)))

def separatorLength (x : UInt8) : Nat :=
  if x < 128 then 1 else if x &&& 0xF0 == 0xE0 then 3 else if x &&& 0xF0 == 0xF0 then 4 else 2

def fieldsOf (b : Bytes) : Option ((Nat × Nat × Nat) × ClockFields × Option Int) := do
  if b.length < 7 then none
  let length ← dateLength b
  let date ← dateFields b length
  if b.length ≤ length then some (date, {}, none)
  else some (date, ← timeFields b (length + separatorLength (byteAt b length)))

def read (source : String) : Except ReadFault Stamp := do
  let some ((year, month, day), clock, offset) := fieldsOf (Text.Utf8.encode source.toList)
    | throw (.malformed source)
  let offset ← match offset with
    | none => pure none
    | some micros => match Offset.of? micros with
      | some o => pure (some o)
      | none => throw (.offset micros)
  let date ← (Date.of? year month day).mapError .date
  let time ← (ClockTime.of? clock.hour clock.minute clock.second clock.micro).mapError .time
  pure ⟨date, time, offset⟩

end ReactionLedger.Stamp

namespace ReactionLedger.Date

def read (source : String) : Except Stamp.ReadFault Date :=
  let b := Text.Utf8.encode source.toList
  let fields := if b.length ∈ [7, 8, 10] then Stamp.dateFields b b.length else none
  match fields with
  | some (year, month, day) => (Date.of? year month day).mapError .date
  | none => .error (.malformed source)

end ReactionLedger.Date
