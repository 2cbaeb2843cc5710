set_option autoImplicit false

namespace ReactionLedger

def isLeap (year : Nat) : Bool := year % 4 == 0 && (year % 100 != 0 || year % 400 == 0)

def daysInMonth (year month : Nat) : Nat :=
  if month == 2 then if isLeap year then 29 else 28
  else if month == 4 || month == 6 || month == 9 || month == 11 then 30
  else 31

structure Date where
  year : Nat
  month : Nat
  day : Nat
  year_pos : 1 ≤ year
  year_le : year ≤ 9999
  month_pos : 1 ≤ month
  month_le : month ≤ 12
  day_pos : 1 ≤ day
  day_le : day ≤ daysInMonth year month
deriving DecidableEq

namespace Date

inductive Fault where
  | year (year : Nat)
  | month
  | day
deriving DecidableEq

def of? (year month day : Nat) : Except Fault Date :=
  if hy : 1 ≤ year ∧ year ≤ 9999 then
    if hm : 1 ≤ month ∧ month ≤ 12 then
      if hd : 1 ≤ day ∧ day ≤ daysInMonth year month then
        .ok ⟨year, month, day, hy.1, hy.2, hm.1, hm.2, hd.1, hd.2⟩
      else .error .day
    else .error .month
  else .error (.year year)

def daysBeforeYear (year : Nat) : Nat :=
  let y := year - 1
  365 * y + y / 4 - y / 100 + y / 400

def daysBeforeMonth (year month : Nat) : Nat :=
  (List.range (month - 1)).foldl (fun days m => days + daysInMonth year (m + 1)) 0

def ordinal (d : Date) : Nat := daysBeforeYear d.year + daysBeforeMonth d.year d.month + d.day

-- month and day of the n-th day of a year, counted from 1
def monthDay (year : Nat) : (fuel : Nat) → (month n : Nat) → Nat × Nat
  | 0, month, n => (month, n)
  | f + 1, month, n =>
    let size := daysInMonth year month
    if n ≤ size then (month, n) else monthDay year f (month + 1) (n - size)

def civil (n : Nat) : Nat × Nat × Nat :=
  let guess := (n - 1) * 400 / 146097 + 1
  let year :=
    if daysBeforeYear (guess + 1) < n then guess + 1
    else if n ≤ daysBeforeYear guess then guess - 1
    else guess
  let (month, day) := monthDay year 12 1 (n - daysBeforeYear year)
  (year, month, day)

def ofOrdinal? (n : Nat) : Except Fault Date :=
  let (year, month, day) := civil n
  of? year month day

def weekday (year month day : Nat) : Nat :=
  (daysBeforeYear year + daysBeforeMonth year month + day + 6) % 7

-- the Monday of a year's first week, the week that holds its first Thursday
def firstMonday (year : Nat) : Nat :=
  let first := daysBeforeYear year + 1
  let w := weekday year 1 1
  if w ≤ 3 then first - w else first + 7 - w

def weeksInYear (year : Nat) : Nat :=
  let w := weekday year 1 1
  if w == 3 || (w == 2 && isLeap year) then 53 else 52

theorem of?_self (d : Date) : of? d.year d.month d.day = .ok d := by
  simp [of?, d.year_pos, d.year_le, d.month_pos, d.month_le, d.day_pos, d.day_le]

end Date

end ReactionLedger
