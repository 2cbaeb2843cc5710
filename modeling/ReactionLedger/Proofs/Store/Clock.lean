import Mathlib
import ReactionLedger.Proofs.Text.Trimming
import ReactionLedger.Store.Cell
import ReactionLedger.Time.Reading

set_option autoImplicit false

namespace ReactionLedger

structure Shows (source : String) (stamp : Stamp) : Prop where
  kept : Cell.settle (.text source) = .text source
  read : Stamp.read source = .ok stamp

namespace ClockText

open Text

def ofReading (d : Date) (t : ClockTime) : String :=
  String.ofList
    (d.text ++ ' ' :: (fixed 2 t.hour ++ ':' :: fixed 2 t.minute ++ ':' :: fixed 2 t.second))

def byte (n : Nat) : UInt8 := UInt8.ofNat (48 + n % 10)

theorem toNat_byte (n : Nat) : (byte n).toNat = 48 + n % 10 := by
  have small : n % 10 < 10 := Nat.mod_lt _ (by decide)
  simp only [byte, UInt8.toNat_ofNat']
  omega

@[simp]
theorem isDigitByte_byte (n : Nat) : Stamp.isDigitByte (byte n) = true := by
  have small : n % 10 < 10 := Nat.mod_lt _ (by decide)
  simp only [Stamp.isDigitByte, Bool.and_eq_true, decide_eq_true_eq, UInt8.le_iff_toNat_le,
    toNat_byte]
  constructor
  · show 48 ≤ 48 + n % 10
    omega
  · show 48 + n % 10 ≤ 57
    omega

@[simp]
theorem isZoneMark_byte (n : Nat) : Stamp.isZoneMark (byte n) = false := by
  have small : n % 10 < 10 := Nat.mod_lt _ (by decide)
  simp [Stamp.isZoneMark, toNat_byte]
  omega

@[simp]
theorem encode_digit (n : Nat) : String.utf8EncodeChar (digit n) = [byte n] := by
  have cases : ∀ m, m < 10 →
      String.utf8EncodeChar (Char.ofNat (48 + m)) = [UInt8.ofNat (48 + m)] := by
    decide
  exact cases _ (Nat.mod_lt _ (by decide))

def bytes (d : Date) (t : ClockTime) : Stamp.Bytes :=
  [byte (d.year / 10 / 10 / 10), byte (d.year / 10 / 10), byte (d.year / 10), byte d.year, 45,
    byte (d.month / 10), byte d.month, 45, byte (d.day / 10), byte d.day, 32,
    byte (t.hour / 10), byte t.hour, 58, byte (t.minute / 10), byte t.minute, 58,
    byte (t.second / 10), byte t.second]

theorem encode_ofReading (d : Date) (t : ClockTime) :
    Utf8.encode (ofReading d t).toList = bytes d t := by
  simp [ofReading, Date.text, fixed, Utf8.encode]
  rfl

theorem digits_pair (b : Stamp.Bytes) (i n : Nat) (small : n < 100)
    (tens : Stamp.byteAt b i = byte (n / 10)) (ones : Stamp.byteAt b (i + 1) = byte n) :
    Stamp.digits b i 2 = some n := by
  have value : 10 * (n / 10 % 10) + n % 10 = n := by omega
  simp [Stamp.digits, tens, ones, toNat_byte, value]

theorem digits_year (d : Date) (t : ClockTime) : Stamp.digits (bytes d t) 0 4 = some d.year := by
  have small := d.year_le
  have value : 10 * (10 * (10 * (d.year / 10 / 10 / 10 % 10) + d.year / 10 / 10 % 10) +
      d.year / 10 % 10) + d.year % 10 = d.year := by omega
  simp [Stamp.digits, Stamp.byteAt, bytes, toNat_byte, value]

theorem not_isChar_byte (b : Stamp.Bytes) (i n : Nat) (c : Char) (digit : Stamp.byteAt b i = byte n)
    (letter : 57 < c.toNat) : Stamp.isChar b i c = false := by
  have small : n % 10 < 10 := Nat.mod_lt _ (by decide)
  simp [Stamp.isChar, digit, toNat_byte]
  omega

theorem dateFields_bytes (d : Date) (t : ClockTime) :
    Stamp.dateFields (bytes d t) 10 = some (d.year, d.month, d.day) := by
  have monthSmall := d.month_le
  have daySmall : d.day ≤ 31 := by
    have bound := d.day_le
    unfold daysInMonth at bound
    split_ifs at bound <;> omega
  have month := digits_pair (bytes d t) 5 d.month (by omega) rfl rfl
  have day := digits_pair (bytes d t) 8 d.day (by omega) rfl rfl
  have plain := not_isChar_byte (bytes d t) 5 (d.month / 10) 'W' rfl (by decide)
  have first : Stamp.isChar (bytes d t) 4 '-' = true := rfl
  have second : Stamp.isChar (bytes d t) 7 '-' = true := rfl
  simp [Stamp.dateFields, digits_year, month, day, plain, first, second]

theorem pairs_bytes (d : Date) (t : ClockTime) :
    Stamp.pairs (bytes d t) 19 3 true true 11 =
      some ([t.hour, t.minute, t.second], .stopped false) := by
  have hourSmall := t.hour_lt
  have minuteSmall := t.minute_lt
  have secondSmall := t.second_lt
  have hour := digits_pair (bytes d t) 11 t.hour (by omega) rfl rfl
  have minute := digits_pair (bytes d t) 14 t.minute (by omega) rfl rfl
  have second := digits_pair (bytes d t) 17 t.second (by omega) rfl rfl
  have first : Stamp.isChar (bytes d t) 13 ':' = true := rfl
  have last : Stamp.isChar (bytes d t) 16 ':' = true := rfl
  have past : Stamp.byteAt (bytes d t) 19 = 0 := rfl
  simp [Stamp.pairs, hour, minute, second, first, last, past]

theorem timeFields_bytes (d : Date) (t : ClockTime) :
    Stamp.timeFields (bytes d t) 11 = some (⟨t.hour, t.minute, t.second, 0⟩, none) := by
  have colon : Stamp.isZoneMark 58 = false := rfl
  have noZone : (((bytes d t).drop 11).takeWhile fun x => !Stamp.isZoneMark x).length = 8 := by
    simp [bytes, colon]
  have length : (bytes d t).length = 19 := rfl
  simp [Stamp.timeFields, noZone, Stamp.clockFields, pairs_bytes, length]

theorem fieldsOf_bytes (d : Date) (t : ClockTime) :
    Stamp.fieldsOf (bytes d t) =
      some ((d.year, d.month, d.day), ⟨t.hour, t.minute, t.second, 0⟩, none) := by
  have length : (bytes d t).length = 19 := rfl
  have hyphen : Stamp.isChar (bytes d t) 4 '-' = true := rfl
  have plain := not_isChar_byte (bytes d t) 5 (d.month / 10) 'W' rfl (by decide)
  have blank : Stamp.separatorLength (Stamp.byteAt (bytes d t) 10) = 1 := rfl
  simp [Stamp.fieldsOf, length, Stamp.dateLength, hyphen, plain, dateFields_bytes, blank,
    timeFields_bytes]

theorem read_ofReading (d : Date) (t : ClockTime) (whole : t.micro = 0) :
    Stamp.read (ofReading d t) = .ok ⟨d, t, none⟩ := by
  have date := Date.of?_self d
  have time := ClockTime.of?_self t
  rw [whole] at time
  simp [Stamp.read, encode_ofReading, fieldsOf_bytes, date, time]
  rfl

theorem numeralBlank_digit (n : Nat) : numeralBlank (digit n) = false := by
  have cases : ∀ m, m < 10 → numeralBlank (Char.ofNat (48 + m)) = false := by decide
  exact cases _ (Nat.mod_lt _ (by decide))

theorem signed_digit (n : Nat) (cs : List Char) :
    Decimal.signed (digit n :: cs) = (false, digit n :: cs) := by
  have digits := isDigit_digit n
  unfold Decimal.signed
  split
  next same => simp_all [isDigit]
  next same => simp_all [isDigit]
  next => rfl

theorem trim_ofReading (d : Date) (t : ClockTime) :
    trimWith numeralBlank (ofReading d t).toList = (ofReading d t).toList := by
  have text : (ofReading d t).toList = digit (d.year / 10 / 10 / 10) ::
      ([digit (d.year / 10 / 10), digit (d.year / 10), digit d.year, '-',
        digit (d.month / 10), digit d.month, '-', digit (d.day / 10), digit d.day, ' ',
        digit (t.hour / 10), digit t.hour, ':', digit (t.minute / 10), digit t.minute, ':',
        digit (t.second / 10)] ++ [digit t.second]) := by
    simp [ofReading, Date.text, fixed]
  rw [text]
  rw [trimWith_eq_self_iff]
  exact ⟨by simp [numeralBlank_digit], by simp [numeralBlank_digit]⟩

-- the hyphen after the year ends the digits and begins no exponent
theorem not_number (d : Date) (t : ClockTime) : Decimal.Literal.read? (ofReading d t) = none := by
  have hyphen : isDigit '-' = false := rfl
  have noExponent (cs : List Char) : Decimal.exponent? ('-' :: cs) = none := rfl
  simp [Decimal.Literal.read?, trim_ofReading]
  simp [ofReading, Date.text, fixed, signed_digit, isDigit_digit, hyphen, noExponent]

theorem shows_ofReading (d : Date) (t : ClockTime) (whole : t.micro = 0) :
    Shows (ofReading d t) ⟨d, t, none⟩ where
  kept := by simp [Cell.settle, Cell.ofText, not_number]
  read := read_ofReading d t whole

def start : Stamp where
  date := ⟨2024, 5, 1, by decide, by decide, by decide, by decide, by decide, by decide⟩
  time := { ClockTime.midnight with hour := 12, hour_lt := by decide }
  offset := none

theorem shows_start : Shows "2024-05-01 12:00:00" start := by
  have written : ofReading start.date start.time = "2024-05-01 12:00:00" := by decide +kernel
  exact written ▸ shows_ofReading start.date start.time rfl

def fullHour (n : Nat) : ClockTime :=
  { ClockTime.midnight with hour := n % 24, hour_lt := Nat.mod_lt n (by decide) }

theorem two_hours_lt_day : (7200000000 : Int).natAbs < dayMicros := by decide

def twoHoursEast : Offset := ⟨7200000000, two_hours_lt_day⟩

end ClockText

end ReactionLedger
