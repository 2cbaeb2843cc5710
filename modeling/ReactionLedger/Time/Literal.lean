import ReactionLedger.Time.Stamp

set_option autoImplicit false

namespace ReactionLedger

def commaList (parts : List String) : String := String.intercalate ", " parts

def durationLiteral (micros : Int) : String :=
  let days := micros.fdiv dayMicros
  let rest := (micros.fmod dayMicros).toNat
  let part (label : String) (value : Int) : List String :=
    if value == 0 then [] else [label ++ "=" ++ toString value]
  let parts := part "days" days ++ part "seconds" (rest / 1000000 : Nat) ++
    part "microseconds" (rest % 1000000 : Nat)
  "datetime.timedelta(" ++ (if parts.isEmpty then "0" else commaList parts) ++ ")"

def Offset.literal (o : Offset) : String :=
  if o.micros == 0 then "datetime.timezone.utc"
  else "datetime.timezone(" ++ durationLiteral o.micros ++ ")"

def Date.literal (d : Date) : String :=
  "datetime.date(" ++ commaList ([d.year, d.month, d.day].map toString) ++ ")"

def Stamp.literal (s : Stamp) : String :=
  let t := s.time
  let clock := [t.hour, t.minute] ++
    if t.micro != 0 then [t.second, t.micro] else if t.second != 0 then [t.second] else []
  let zone := (s.offset.map fun o => "tzinfo=" ++ o.literal).toList
  let date := [s.date.year, s.date.month, s.date.day]
  "datetime.datetime(" ++ commaList ((date ++ clock).map toString ++ zone) ++ ")"

end ReactionLedger
