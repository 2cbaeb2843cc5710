import ReactionLedger.Time.Calendar
import ReactionLedger.Text.Digits

set_option autoImplicit false

namespace ReactionLedger

structure ClockTime where
  hour : Nat
  minute : Nat
  second : Nat
  micro : Nat
  hour_lt : hour < 24
  minute_lt : minute < 60
  second_lt : second < 60
  micro_lt : micro < 1000000
deriving DecidableEq

namespace ClockTime

inductive Fault where
  | hour
  | minute
  | second
  | micro
deriving DecidableEq

def of? (hour minute second micro : Nat) : Except Fault ClockTime :=
  if hh : hour < 24 then
    if hm : minute < 60 then
      if hs : second < 60 then
        if hu : micro < 1000000 then .ok ⟨hour, minute, second, micro, hh, hm, hs, hu⟩
        else .error .micro
      else .error .second
    else .error .minute
  else .error .hour

def midnight : ClockTime :=
  ⟨0, 0, 0, 0, by decide, by decide, by decide, by decide⟩

def micros (t : ClockTime) : Nat :=
  ((t.hour * 60 + t.minute) * 60 + t.second) * 1000000 + t.micro

theorem of?_self (t : ClockTime) : of? t.hour t.minute t.second t.micro = .ok t := by
  simp [of?, t.hour_lt, t.minute_lt, t.second_lt, t.micro_lt]

end ClockTime

def dayMicros : Nat := 86400000000

structure Offset where
  micros : Int
  in_day : micros.natAbs < dayMicros
deriving DecidableEq

namespace Offset

def zero : Offset := ⟨0, by decide⟩

def of? (micros : Int) : Option Offset :=
  if h : micros.natAbs < dayMicros then some ⟨micros, h⟩ else none

end Offset

structure Moment where
  date : Date
  time : ClockTime
  offset : Offset
deriving DecidableEq

structure Stamp where
  date : Date
  time : ClockTime
  offset : Option Offset
deriving DecidableEq

-- microseconds on the wall clock since the day before the first
def wallMicros (date : Date) (time : ClockTime) : Nat := date.ordinal * dayMicros + time.micros

def Moment.instant (m : Moment) : Int := wallMicros m.date m.time - m.offset.micros

def Moment.stamp (m : Moment) : Stamp := ⟨m.date, m.time, some m.offset⟩

namespace Stamp

def moment (s : Stamp) : Moment := ⟨s.date, s.time, s.offset.getD .zero⟩

def moment? (s : Stamp) : Option Moment := s.offset.map fun o => ⟨s.date, s.time, o⟩

theorem moment?_stamp (m : Moment) : m.stamp.moment? = some m := rfl

theorem moment_stamp (m : Moment) : m.stamp.moment = m := rfl

end Stamp

section Printing

open Text

def Date.text (d : Date) : List Char :=
  fixed 4 d.year ++ '-' :: fixed 2 d.month ++ '-' :: fixed 2 d.day

def fractionText (micro : Nat) : List Char := if micro == 0 then [] else '.' :: fixed 6 micro

def ClockTime.text (t : ClockTime) : List Char :=
  fixed 2 t.hour ++ ':' :: fixed 2 t.minute ++ ':' :: fixed 2 t.second ++ fractionText t.micro

def Offset.text (o : Offset) : List Char :=
  let n := o.micros.natAbs
  let second := n / 1000000 % 60
  let micro := n % 1000000
  (if o.micros < 0 then '-' else '+') :: fixed 2 (n / 3600000000) ++
    ':' :: fixed 2 (n / 60000000 % 60) ++
    (if second == 0 && micro == 0 then [] else ':' :: fixed 2 second) ++ fractionText micro

def Stamp.textWith (separator : Char) (s : Stamp) : String :=
  String.ofList (s.date.text ++ separator :: s.time.text ++ (s.offset.map Offset.text).getD [])

def Stamp.text (s : Stamp) : String := s.textWith 'T'

def Moment.text (m : Moment) : String := m.stamp.text

def Stamp.storedText (s : Stamp) : String :=
  String.ofList (s.date.text ++ ' ' :: fixed 2 s.time.hour ++ ':' :: fixed 2 s.time.minute ++
    ':' :: fixed 2 s.time.second ++ '.' :: fixed 6 s.time.micro)

end Printing

end ReactionLedger
