import Mathlib.Tactic
import ReactionLedger.Summary.Validation

set_option autoImplicit false

namespace ReactionLedger

def Offset.InMinutes (o : Offset) : Prop := 60000000 ∣ o.micros

instance (o : Offset) : Decidable o.InMinutes := inferInstanceAs (Decidable (_ ∣ _))

namespace Text

theorem isDigit_of_mem_fixed {w n : Nat} {c : Char} (mem : c ∈ fixed w n) : isDigit c = true := by
  induction w generalizing n with
  | zero => cases mem
  | succ w ih =>
    rcases List.mem_append.mp mem with front | last
    · exact ih front
    · rw [List.mem_singleton.mp last]
      exact isDigit_digit n

def Ascii (cs : List Char) : Prop := ∀ c ∈ cs, c.toNat < 128

@[simp]
theorem ascii_nil : Ascii [] := nofun

@[simp]
theorem ascii_append {cs ds : List Char} : Ascii (cs ++ ds) ↔ Ascii cs ∧ Ascii ds :=
  List.forall_mem_append

@[simp]
theorem ascii_cons {c : Char} {cs : List Char} : Ascii (c :: cs) ↔ c.toNat < 128 ∧ Ascii cs :=
  List.forall_mem_cons

@[simp]
theorem ascii_fixed (w n : Nat) : Ascii (fixed w n) := by
  intro c mem
  have digit := isDigit_of_mem_fixed mem
  simp only [isDigit, Bool.and_eq_true, decide_eq_true_eq] at digit
  exact lt_of_le_of_lt (UInt32.le_iff_toNat_le.mp digit.2) (by decide)

theorem Utf8.chars_encode {cs : List Char} (ascii : Ascii cs) :
    (encode cs).map (fun b => Char.ofNat b.toNat) = cs := by
  induction cs with
  | nil => rfl
  | cons c cs ih =>
    obtain ⟨small, rest⟩ := ascii_cons.mp ascii
    have one : String.utf8EncodeChar c = [UInt8.ofNat c.toNat] := by
      have small : c.val.toNat ≤ 127 := Nat.le_of_lt_succ small
      simp only [String.utf8EncodeChar, if_pos small]
      rfl
    have back : (UInt8.ofNat c.toNat).toNat = c.toNat := by
      rw [UInt8.toNat_ofNat']
      omega
    rw [encode, List.flatMap_cons, one, List.singleton_append, List.map_cons, back,
      Char.ofNat_toNat, ← encode, ih rest]

end Text

open Text

namespace Exchange

theorem readDate_text (d : Date) (rest : List Char) :
    readDate (d.text ++ rest) = .ok ((d.year, d.month, d.day), rest) := by
  have year : readDigits (fixed 4 d.year) 0 = some d.year :=
    readDigits_fixed (lt_of_le_of_lt d.year_le (by decide))
  have month : readDigits (fixed 2 d.month) 0 = some d.month :=
    readDigits_fixed (lt_of_le_of_lt d.month_le (by decide))
  have days : daysInMonth d.year d.month ≤ 31 := by
    unfold daysInMonth
    split_ifs <;> decide
  have day : readDigits (fixed 2 d.day) 0 = some d.day :=
    readDigits_fixed (lt_of_le_of_lt (d.day_le.trans days) (by decide))
  have long : ¬ (d.text ++ rest).length < 10 := by
    simp only [Date.text, List.length_append, List.length_cons, length_fixed]
    omega
  have inYear : ¬ (d.month < 1 ∨ 12 < d.month) := by
    have := d.month_pos
    have := d.month_le
    omega
  have inMonth : ¬ (d.day < 1 ∨ daysInMonth d.year d.month < d.day) := by
    have := d.day_pos
    have := d.day_le
    omega
  rw [readDate, if_neg long]
  simp only [Date.text, List.append_assoc, List.cons_append, List.take_left' (length_fixed _ _),
    List.drop_left' (length_fixed _ _), year, month, day, if_neg inYear, if_neg inMonth]

theorem twoDigits_fixed {n : Nat} (small : n < 100) (rest : List Char) :
    twoDigits (fixed 2 n ++ rest) = some (n, rest) := by
  have read : readDigits (fixed 2 n) 0 = some n := readDigits_fixed small
  change (readDigits (fixed 2 n) 0).map (·, rest) = _
  rw [read]
  rfl

def Stops (rest : List Char) : Prop := ∀ c ∈ rest.head?, isDigit c = false ∧ c ≠ '.' ∧ c ≠ ','

theorem stops_exchangeText (o : Offset) : Stops o.exchangeText := by
  rw [Offset.exchangeText, Stops]
  split_ifs <;> (rintro c ⟨⟩; decide)

section Clock

variable {rest : List Char} (stops : Stops rest)
include stops

theorem readFraction_fixed {n : Nat} (small : n < 1000000) :
    readFraction (fixed 6 n ++ rest) = some (n, rest) := by
  have digits : ∀ c ∈ fixed 6 n, isDigit c = true := fun c => isDigit_of_mem_fixed
  have taken : rest.takeWhile isDigit = [] := by
    cases rest with
    | nil => rfl
    | cons c cs => simp [(stops c rfl).1]
  have dropped : rest.dropWhile isDigit = rest := by
    cases rest with
    | nil => rfl
    | cons c cs => simp [(stops c rfl).1]
  have read : readDigits (fixed 6 n) 0 = some n := readDigits_fixed small
  have places : (fixed 6 n ++ rest).takeWhile isDigit = fixed 6 n := by
    rw [List.takeWhile_append_of_pos digits, taken, List.append_nil]
  have used : (fixed 6 n).take 6 = fixed 6 n := List.take_of_length_le (length_fixed 6 n).le
  have filled : (fixed 6 n).isEmpty = false := rfl
  rw [readFraction, places, List.dropWhile_append_of_pos digits, dropped]
  dsimp only
  rw [filled, used, read, length_fixed]
  simp [tenTo]

theorem readSeconds_text {second micro : Nat} (small : second < 60) (places : micro < 1000000) :
    readSeconds (':' :: (fixed 2 second ++ (fractionText micro ++ rest))) =
      some (second, micro, rest) := by
  rw [readSeconds, twoDigits_fixed (by omega)]
  unfold fractionText
  cases none : micro == 0 with
  | true =>
    obtain rfl := beq_iff_eq.mp none
    simp only [if_true, List.nil_append, Option.bind_eq_bind, Option.bind_some]
    split
    next => exact absurd rfl (stops _ rfl).2.1
    next => exact absurd rfl (stops _ rfl).2.2
    next => rfl
  | false =>
    simp only [Bool.false_eq_true, if_false, List.cons_append, Option.bind_eq_bind,
      Option.bind_some, readFraction_fixed stops places]

-- the rest is any text: an offset's own text would be compared digit by digit with large numbers
theorem readTime_text (t : ClockTime) {offset : Option Offset}
    (zone : readOffset rest = some offset) :
    readTime ('T' :: (t.text ++ rest)) = some (t, offset) := by
  have text : t.text ++ rest = fixed 2 t.hour ++ (':' :: (fixed 2 t.minute ++
      (':' :: (fixed 2 t.second ++ (fractionText t.micro ++ rest))))) := by
    simp only [ClockTime.text, List.append_assoc, List.cons_append]
  have hour := t.hour_lt
  have minute := t.minute_lt
  rw [text, readTime, if_pos (by simp), twoDigits_fixed (by omega)]
  simp only [Option.bind_eq_bind, Option.bind_some, twoDigits_fixed (lt_trans minute (by decide)),
    readSeconds_text stops t.second_lt t.micro_lt, zone, ClockTime.of?_self]
  rfl

end Clock

theorem readZone_fixed (sign : Int) {hour minute : Nat} (day : hour < 24) (full : minute < 60) :
    readZone sign (fixed 2 hour ++ ':' :: fixed 2 minute) =
      Offset.of? (sign * (hour * 3600 + minute * 60 : Nat) * 1000000) := by
  have last := twoDigits_fixed (n := minute) (by omega) []
  rw [List.append_nil] at last
  rw [readZone, twoDigits_fixed (by omega)]
  simp only [Option.bind_eq_bind, Option.bind_some, last, List.isEmpty_nil, Bool.and_true,
    decide_eq_true full, if_true]

theorem readOffset_exchangeText {o : Offset} (whole : o.InMinutes) :
    readOffset o.exchangeText = some (some o) := by
  obtain ⟨minutes, same⟩ := whole
  have inDay := o.in_day
  rw [dayMicros] at inDay
  have seconds : o.nearestSeconds = minutes.natAbs * 60 := by
    rw [Offset.nearestSeconds]
    omega
  have hour : minutes.natAbs * 60 / 3600 < 24 := by omega
  have minute : minutes.natAbs * 60 / 60 % 60 < 60 := by omega
  have whole : minutes.natAbs * 60 / 3600 * 3600 + minutes.natAbs * 60 / 60 % 60 * 60 =
      minutes.natAbs * 60 := by omega
  have micros : Offset.of? o.micros = some o := dif_pos o.in_day
  rw [Offset.exchangeText, seconds]
  split_ifs with zero west
  · have none : o.micros = 0 := by
      have := beq_iff_eq.mp zero
      omega
    rw [none] at micros
    exact congrArg some micros
  · have back : -1 * ((minutes.natAbs * 60 : Nat) : Int) * 1000000 = o.micros := by omega
    rw [List.cons_append, readOffset, readZone_fixed _ hour minute, whole, back, micros,
      Option.map_some]
  · have back : 1 * ((minutes.natAbs * 60 : Nat) : Int) * 1000000 = o.micros := by omega
    rw [List.cons_append, readOffset, readZone_fixed _ hour minute, whole, back, micros,
      Option.map_some]

end Exchange

theorem Moment.exchangeText_toList (m : Moment) :
    m.exchangeText.toList = m.date.text ++ ('T' :: (m.time.text ++ m.offset.exchangeText)) := by
  have offset : (m.stamp.offset.map Offset.exchangeText).getD [] = m.offset.exchangeText := by
    rw [Moment.stamp, Option.map_some, Option.getD_some]
  rw [exchangeText, Stamp.exchangeText, offset, String.toList_ofList, List.append_assoc,
    List.cons_append, Moment.stamp]

theorem Offset.ascii_exchangeText (o : Offset) : Ascii o.exchangeText := by
  rw [exchangeText]
  split_ifs <;> simp

theorem Moment.ascii_exchangeText (m : Moment) : Ascii m.exchangeText.toList := by
  have fraction : Ascii (fractionText m.time.micro) := by
    rw [fractionText]
    split_ifs <;> simp
  rw [exchangeText_toList]
  simp [Date.text, ClockTime.text, fraction, Offset.ascii_exchangeText]

namespace Exchange

theorem inMinutes_of_readZone {sign : Int} {cs : List Char} {o : Offset}
    (read : (readZone sign cs).map some = some (some o)) : o.InMinutes := by
  obtain ⟨_, zone, same⟩ := Option.map_eq_some_iff.mp read
  obtain rfl := Option.some.inj same
  unfold readZone at zone
  simp only [Option.bind_eq_bind, Option.bind_eq_some_iff] at zone
  obtain ⟨⟨hour, _⟩, -, ⟨minute, _⟩, -, made⟩ := zone
  split_ifs at made
  obtain ⟨_, same⟩ := Option.dite_none_right_eq_some.mp made
  obtain rfl := Option.some.inj same
  have whole : ((hour * 3600 + minute * 60 : Nat) : Int) * 1000000 =
      60000000 * (hour * 60 + minute) := by
    push_cast
    ring
  change 60000000 ∣ sign * ((hour * 3600 + minute * 60 : Nat) : Int) * 1000000
  rw [mul_assoc, whole]
  exact (Dvd.intro _ rfl).mul_left sign

theorem inMinutes_of_readOffset {cs : List Char} {o : Offset}
    (read : readOffset cs = some (some o)) : o.InMinutes := by
  unfold readOffset at read
  split at read
  next => cases read
  next =>
    obtain rfl := Option.some.inj (Option.some.inj read)
    decide
  next =>
    obtain rfl := Option.some.inj (Option.some.inj read)
    decide
  next => exact inMinutes_of_readZone read
  next => exact inMinutes_of_readZone read
  next => exact inMinutes_of_readZone read
  next => cases read

theorem inMinutes_of_readTime {cs : List Char} {t : ClockTime} {o : Offset}
    (read : readTime cs = some (t, some o)) : o.InMinutes := by
  cases cs with
  | nil => cases read
  | cons separator cs =>
    rw [readTime] at read
    split_ifs at read
    obtain ⟨⟨_, rest⟩, -, read⟩ := Option.bind_eq_some_iff.mp read
    dsimp only at read
    split at read
    next =>
      simp only [Option.bind_eq_bind, Option.bind_eq_some_iff] at read
      obtain ⟨_, -, _, -, offset, zone, time, -, same⟩ := read
      obtain ⟨-, rfl⟩ := Prod.mk.inj (Option.some.inj same)
      exact inMinutes_of_readOffset zone
    next => cases read

end Exchange

theorem Exchange.read_exchangeText (m : Moment) :
    read (Utf8.encode m.exchangeText.toList) =
      match readTime ('T' :: (m.time.text ++ m.offset.exchangeText)) with
      | some (time, offset) => .stamp (m.date.year, m.date.month, m.date.day) time offset
      | none => .fault .extra := by
  rw [read, Utf8.chars_encode m.ascii_exchangeText, m.exchangeText_toList]
  simp only [readDate_text]
  cases readTime ('T' :: (m.time.text ++ m.offset.exchangeText)) <;> rfl

theorem Field.aware_exchangeText_iff (m : Moment) :
    aware (.text m.exchangeText) = .ok m ↔ m.offset.InMinutes := by
  rw [aware, ofBytes, Exchange.read_exchangeText]
  constructor
  · intro read
    cases timed : Exchange.readTime ('T' :: (m.time.text ++ m.offset.exchangeText)) with
    | none =>
      rw [timed] at read
      cases read
    | some clock =>
      obtain ⟨time, _ | offset⟩ := clock
      · rw [timed] at read
        cases read
      · rw [timed] at read
        simp only [moment, Date.of?_self] at read
        rw [← Except.ok.inj read]
        exact Exchange.inMinutes_of_readTime timed
  · intro whole
    have read := Exchange.readTime_text (Exchange.stops_exchangeText m.offset) m.time
      (Exchange.readOffset_exchangeText whole)
    simp only [read, moment, Date.of?_self]

end ReactionLedger
