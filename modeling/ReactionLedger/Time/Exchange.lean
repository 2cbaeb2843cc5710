import ReactionLedger.Decimal.Literal
import ReactionLedger.Time.Stamp

set_option autoImplicit false

namespace ReactionLedger

open Text

-- the offset to the nearest second, half a second counting away from zero
def Offset.nearestSeconds (o : Offset) : Nat := (o.micros.natAbs + 500000) / 1000000

-- hours and minutes, as many as the seconds fill
def Offset.exchangeText (o : Offset) : List Char :=
  let seconds := o.nearestSeconds
  if seconds == 0 then ['Z']
  else
    (if o.micros < 0 then '-' else '+') :: fixed 2 (seconds / 3600) ++
      ':' :: fixed 2 (seconds / 60 % 60)

def Stamp.exchangeText (s : Stamp) : String :=
  String.ofList (s.date.text ++ 'T' :: s.time.text ++ (s.offset.map Offset.exchangeText).getD [])

def Moment.exchangeText (m : Moment) : String := m.stamp.exchangeText

namespace Exchange

inductive DateFault where
  | tooShort
  | yearCharacter
  | monthCharacter
  | dayCharacter
  | separator
  | monthRange
  | dayRange
  | extra
deriving DecidableEq

def DateFault.message : DateFault → String
  | .tooShort => "input is too short"
  | .yearCharacter => "invalid character in year"
  | .monthCharacter => "invalid character in month"
  | .dayCharacter => "invalid character in day"
  | .separator => "invalid date separator, expected `-`"
  | .monthRange => "month value is outside expected range of 1-12"
  | .dayRange => "day value is outside expected range"
  | .extra => "unexpected extra characters at the end of the input"

/-- A date that may still lie in year 0, which the calendar of stamps lacks. -/
abbrev LooseDate := Nat × Nat × Nat

def readDate (cs : List Char) : Except DateFault (LooseDate × List Char) :=
  if cs.length < 10 then .error .tooShort
  else
    match readDigits (cs.take 4) 0, cs.drop 4 with
    | none, _ => .error .yearCharacter
    | some year, '-' :: cs =>
      match readDigits (cs.take 2) 0, cs.drop 2 with
      | none, _ => .error .monthCharacter
      | some month, '-' :: cs =>
        match readDigits (cs.take 2) 0, cs.drop 2 with
        | none, _ => .error .dayCharacter
        | some day, rest =>
          if month < 1 ∨ 12 < month then .error .monthRange
          else if day < 1 ∨ daysInMonth year month < day then .error .dayRange
          else .ok ((year, month, day), rest)
      | some _, _ => .error .separator
    | some _, _ => .error .separator

def twoDigits : List Char → Option (Nat × List Char)
  | a :: b :: cs => (readDigits [a, b] 0).map (·, cs)
  | _ => none

-- the first six digits count, the others are dropped
def readFraction (cs : List Char) : Option (Nat × List Char) :=
  let places := cs.takeWhile isDigit
  if places.isEmpty then none
  else
    let used := places.take 6
    (readDigits used 0).map fun n => (n * tenTo (6 - used.length), cs.dropWhile isDigit)

def readSeconds : List Char → Option (Nat × Nat × List Char)
  | ':' :: cs => do
    let (second, cs) ← twoDigits cs
    match cs with
    | '.' :: cs | ',' :: cs =>
      let (micro, cs) ← readFraction cs
      some (second, micro, cs)
    | cs => some (second, 0, cs)
  | cs => some (0, 0, cs)

def readZone (sign : Int) (cs : List Char) : Option Offset := do
  let (hour, cs) ← twoDigits cs
  let cs := match cs with
    | ':' :: cs => cs
    | cs => cs
  let (minute, cs) ← twoDigits cs
  if minute < 60 && cs.isEmpty then Offset.of? (sign * (hour * 3600 + minute * 60 : Nat) * 1000000)
  else none

-- the minus sign of mathematics takes three bytes
def readOffset : List Char → Option (Option Offset)
  | [] => some none
  | ['Z'] | ['z'] => some (some .zero)
  | '+' :: cs => (readZone 1 cs).map some
  | '-' :: cs | '\u00e2' :: '\u0088' :: '\u0092' :: cs => (readZone (-1) cs).map some
  | _ => none

def readTime : List Char → Option (ClockTime × Option Offset)
  | sep :: cs => do
    if sep ∈ ['T', 't', ' ', '_'] then
      let (hour, cs) ← twoDigits cs
      let (minute, cs) ← match cs with
        | ':' :: cs => twoDigits cs
        | _ => none
      let (second, micro, cs) ← readSeconds cs
      let offset ← readOffset cs
      let time ← (ClockTime.of? hour minute second micro).toOption
      some (time, offset)
    else none
  | [] => none

inductive Number where
  | whole (n : Int)
  | fractional (x : Double)

def readNumber (cs : List Char) : Option Number :=
  let (negative, cs) := Decimal.signed cs
  let (units, rest) := (cs.takeWhile isDigit, cs.dropWhile isDigit)
  match rest with
  | [] => do
    let n ← readDigits units 0
    if units.isEmpty || !fitsWord n then none
    else some (.whole (if negative then -(n : Int) else n))
  | '.' :: places =>
    if places.all isDigit && !(units.isEmpty && places.isEmpty) then
      let literal : Decimal.Literal :=
        ⟨negative, Decimal.digitsOf units, Decimal.digitsOf places, true, none⟩
      some (.fractional literal.double)
    else none
  | _ => none

inductive Reading where
  | stamp (date : LooseDate) (time : ClockTime) (offset : Option Offset)
  -- a number, with the fault that keeps it from being a date
  | number (n : Number) (fault : DateFault)
  | fault (fault : DateFault)

def read (bytes : List UInt8) : Reading :=
  let cs := bytes.map fun b => Char.ofNat b.toNat
  match readDate cs with
  | .error f =>
    match readNumber cs with
    | some n => .number n f
    | none => .fault f
  | .ok (date, rest) =>
    match readTime rest with
    | some (time, offset) => .stamp date time offset
    | none => if rest.isEmpty then .stamp date .midnight none else .fault .extra

end Exchange

end ReactionLedger
