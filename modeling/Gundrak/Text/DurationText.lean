import Gundrak.Util.JoinedNumbers
import Gundrak.Util.TimeConstants

/-!
# Texts for durations

`secsToTimeString` writes a duration in days, hours, minutes and seconds and leaves out what is zero;
`TimeStringToSecs` reads such a text, in 32 bits.  Bans, mutes and restarts are given as texts and are answered
with texts.

What is read is a list of parts, each a number and a unit.  As the units are at least one second, the digits of a
number stay below the number of seconds that its part comes to, and so does everything else on the way: if the
total fits, nothing wraps.  **`durationText_roundTrip`** says so, and that a duration that has been written is read
as it was.
-/

namespace Gundrak

namespace DurationText

open JoinedNumbers (text)
open TimeConstants

/-! ## The source -/

/-- `secsToTimeString`. -/
def secsToTimeString (timeInSecs : ℕ) (shortText hoursOnly : Bool) : List Char :=
  let secs := timeInSecs % MINUTE
  let minutes := timeInSecs % HOUR / MINUTE
  let hours := timeInSecs % DAY / HOUR
  let days := timeInSecs / DAY
  (if days ≠ 0 then text days ++ (if shortText then "d" else " Day(s) ").toList else []) ++
  (if hours ≠ 0 || hoursOnly then text hours ++ (if shortText then "h" else " Hour(s) ").toList else []) ++
  if hoursOnly then []
  else
    (if minutes ≠ 0 then text minutes ++ (if shortText then "m" else " Minute(s) ").toList else []) ++
    if secs ≠ 0 || (days = 0 && hours = 0 && minutes = 0) then
      text secs ++ (if shortText then "s" else " Second(s).").toList
    else []

/-- The `multiplier` of a unit; any other character is a bad format. -/
def multiplier : Char → Option ℕ
  | 'd' => some DAY
  | 'h' => some HOUR
  | 'm' => some MINUTE
  | 's' => some 1
  | _ => none

/-- The loop of `TimeStringToSecs`.  `fit` is what becomes of a number that is put into a `uint32`. -/
def timeStringLoop {m : Type → Type} [Monad m] (fit : ℕ → m ℕ) (secs buffer : ℕ) : List Char → m ℕ
  | [] => pure secs
  | c :: cs =>
    if c.isDigit then do
      let buffer ← fit (10 * buffer)
      let buffer ← fit (buffer + (c.toNat - '0'.toNat))
      timeStringLoop fit secs buffer cs
    else
      match multiplier c with
      | none => pure 0
      | some k => do
        let buffer ← fit (buffer * k)
        let secs ← fit (secs + buffer)
        timeStringLoop fit secs 0 cs

/-- A `uint32` keeps the lowest 32 bits. -/
def wrapped (n : ℕ) : Id ℕ := pure (n % 2 ^ 32)

/-- A number that a `uint32` can hold. -/
def fitting (n : ℕ) : Option ℕ := if n < 2 ^ 32 then some n else none

/-- `TimeStringToSecs`. -/
def TimeStringToSecs (timestring : List Char) : ℕ := Id.run (timeStringLoop wrapped 0 0 timestring)

/-- The same, but it is an error if a number does not fit, on the way or at the end. -/
def withoutWrap (timestring : List Char) : Option ℕ := timeStringLoop fitting 0 0 timestring

/-! ## Parts -/

/-- The units that are read. -/
inductive DurationUnit where
  | days
  | hours
  | minutes
  | seconds
deriving DecidableEq

namespace DurationUnit

/-- How a unit is written. -/
def char : DurationUnit → Char
  | days => 'd'
  | hours => 'h'
  | minutes => 'm'
  | seconds => 's'

/-- How many seconds it has. -/
def length : DurationUnit → ℕ
  | days => DAY
  | hours => HOUR
  | minutes => MINUTE
  | seconds => 1

theorem multiplier_char (unit : DurationUnit) : multiplier unit.char = some unit.length := by
  cases unit <;> rfl

theorem isDigit_char (unit : DurationUnit) : unit.char.isDigit = false := by
  cases unit <;> rfl

theorem length_pos (unit : DurationUnit) : 0 < unit.length := by
  cases unit <;> decide

end DurationUnit

/-- A decimal number with a unit behind it. -/
structure DurationPart where
  digits : List Char
  unit : DurationUnit
  digits_ne : digits ≠ []
  isDigit : ∀ c ∈ digits, c.isDigit = true

namespace DurationPart

/-- The number of a part. -/
def number (part : DurationPart) : ℕ := Nat.ofDigitChars 10 part.digits 0

/-- How many seconds a part comes to. -/
def seconds (part : DurationPart) : ℕ := part.number * part.unit.length

/-- How a part is written. -/
def chars (part : DurationPart) : List Char := part.digits ++ [part.unit.char]

/-- A number that is not negative, with its unit. -/
def of (n : ℕ) (unit : DurationUnit) : DurationPart where
  digits := text n
  unit := unit
  digits_ne := JoinedNumbers.text_ne_nil n
  isDigit _ hc := Nat.isDigit_of_mem_toDigits (by omega) (by omega) hc

@[simp] theorem seconds_of (n : ℕ) (unit : DurationUnit) : (of n unit).seconds = n * unit.length := by
  exact congrArg (· * unit.length) Nat.ofDigitChars_ten_toDigits

theorem chars_of (n : ℕ) (unit : DurationUnit) : (of n unit).chars = text n ++ [unit.char] := rfl

end DurationPart

/-- What parts come to. -/
def total (parts : List DurationPart) : ℕ := (parts.map DurationPart.seconds).sum

/-! ## Reading -/

theorem fitting_bind {n k : ℕ} {f : ℕ → Option ℕ} : fitting n >>= f = some k ↔ n < 2 ^ 32 ∧ f n = some k := by
  rw [fitting]
  split
  · rename_i hn
    exact (and_iff_right hn).symm
  · rename_i hn
    exact iff_of_false (fun h ↦ by cases h) fun h ↦ hn h.1

theorem wrapped_of_lt {n : ℕ} (h : n < 2 ^ 32) : wrapped n = pure n := congrArg pure (Nat.mod_eq_of_lt h)

theorem timeStringLoop_of_fitting {secs buffer n : ℕ} {cs : List Char}
    (h : timeStringLoop fitting secs buffer cs = some n) : timeStringLoop wrapped secs buffer cs = pure n := by
  induction cs generalizing secs buffer with
  | nil => exact congrArg pure (Option.some.inj h)
  | cons c cs ih =>
    rw [timeStringLoop] at h ⊢
    split at h
    · rename_i hc
      obtain ⟨hten, h⟩ := fitting_bind.mp h
      obtain ⟨hdigit, h⟩ := fitting_bind.mp h
      rw [if_pos hc, wrapped_of_lt hten, pure_bind, wrapped_of_lt hdigit, pure_bind]
      exact ih h
    · rename_i hc
      rw [if_neg hc]
      cases hk : multiplier c with
      | none =>
        rw [hk] at h
        exact congrArg pure (Option.some.inj h)
      | some k =>
        rw [hk] at h
        dsimp only at h ⊢
        obtain ⟨hpart, h⟩ := fitting_bind.mp h
        obtain ⟨hsum, h⟩ := fitting_bind.mp h
        rw [wrapped_of_lt hpart, pure_bind, wrapped_of_lt hsum, pure_bind]
        exact ih h

theorem TimeStringToSecs_of_withoutWrap {timestring : List Char} {n : ℕ} (h : withoutWrap timestring = some n) :
    TimeStringToSecs timestring = n :=
  congrArg Id.run (timeStringLoop_of_fitting h)

theorem le_ofDigitChars (ds : List Char) (n : ℕ) : n ≤ Nat.ofDigitChars 10 ds n := by
  induction ds generalizing n with
  | nil => exact le_of_eq Nat.ofDigitChars_nil.symm
  | cons d ds ih =>
    have hrest := ih (10 * n + (d.toNat - '0'.toNat))
    rw [Nat.ofDigitChars_cons]
    omega

/-- Digits are gathered in the buffer, if it can hold what they come to. -/
theorem timeStringLoop_digits {ds : List Char} (hds : ∀ d ∈ ds, d.isDigit = true) {secs buffer : ℕ}
    (hlt : Nat.ofDigitChars 10 ds buffer < 2 ^ 32) (cs : List Char) :
    timeStringLoop fitting secs buffer (ds ++ cs) = timeStringLoop fitting secs (Nat.ofDigitChars 10 ds buffer) cs := by
  induction ds generalizing buffer with
  | nil => rw [Nat.ofDigitChars_nil, List.nil_append]
  | cons d ds ih =>
    obtain ⟨hd, hds⟩ := List.forall_mem_cons.mp hds
    rw [Nat.ofDigitChars_cons] at hlt ⊢
    have hle := le_ofDigitChars ds (10 * buffer + (d.toNat - '0'.toNat))
    have hten : 10 * buffer < 2 ^ 32 := by omega
    have hdigit : 10 * buffer + (d.toNat - '0'.toNat) < 2 ^ 32 := by omega
    rw [List.cons_append, timeStringLoop, if_pos hd, fitting, if_pos hten, Option.bind_eq_bind, Option.bind_some,
      fitting, if_pos hdigit, Option.bind_some]
    exact ih hds hlt

theorem timeStringLoop_part (part : DurationPart) {secs : ℕ} (hlt : secs + part.seconds < 2 ^ 32) (cs : List Char) :
    timeStringLoop fitting secs 0 (part.chars ++ cs) = timeStringLoop fitting (secs + part.seconds) 0 cs := by
  have hunit := part.unit.length_pos
  have hle : part.number ≤ part.seconds := Nat.le_mul_of_pos_right _ hunit
  have hseconds : part.seconds < 2 ^ 32 := by omega
  have hnumber : Nat.ofDigitChars 10 part.digits 0 < 2 ^ 32 := hle.trans_lt hseconds
  have hdigit : ¬ part.unit.char.isDigit = true := by
    rw [part.unit.isDigit_char]
    simp
  rw [DurationPart.chars, List.append_assoc, timeStringLoop_digits part.isDigit hnumber, List.singleton_append,
    timeStringLoop, if_neg hdigit, part.unit.multiplier_char]
  change fitting part.seconds >>= _ = _
  rw [fitting, if_pos hseconds, Option.bind_eq_bind, Option.bind_some, fitting, if_pos hlt, Option.bind_some]

/-- **The parts are summed up**, and nothing wraps on the way. -/
theorem timeStringLoop_parts (parts : List DurationPart) {secs : ℕ} (hlt : secs + total parts < 2 ^ 32) :
    timeStringLoop fitting secs 0 (parts.flatMap DurationPart.chars) = some (secs + total parts) := by
  induction parts generalizing secs with
  | nil => rfl
  | cons part parts ih =>
    have htotal : total (part :: parts) = part.seconds + total parts := List.sum_cons
    rw [htotal, ← Nat.add_assoc] at hlt ⊢
    rw [List.flatMap_cons, timeStringLoop_part part (by omega)]
    exact ih hlt

/-! ## Writing -/

/-- The part of a unit, if there is one. -/
def optional (written : Bool) (n : ℕ) (unit : DurationUnit) : List DurationPart :=
  if written then [.of n unit] else []

theorem chars_optional (written : Bool) (n : ℕ) (unit : DurationUnit) :
    (optional written n unit).flatMap DurationPart.chars = if written then text n ++ [unit.char] else [] := by
  rw [optional]
  split <;> simp [DurationPart.chars_of]

theorem total_optional {written : Bool} {n : ℕ} (h : written = false → n = 0) (unit : DurationUnit) :
    total (optional written n unit) = n * unit.length := by
  cases written with
  | true => rw [optional, if_pos rfl, total, List.map_singleton, List.sum_singleton, DurationPart.seconds_of]
  | false =>
    rw [h rfl, Nat.zero_mul]
    rfl

theorem total_append (parts parts' : List DurationPart) : total (parts ++ parts') = total parts + total parts' := by
  simp [total]

/-- The parts that are written for a duration. -/
def partsOf (t : ℕ) : List DurationPart :=
  optional (t / DAY ≠ 0) (t / DAY) .days ++ optional (t % DAY / HOUR ≠ 0) (t % DAY / HOUR) .hours ++
    (optional (t % HOUR / MINUTE ≠ 0) (t % HOUR / MINUTE) .minutes ++
      optional (t % MINUTE ≠ 0 || (t / DAY = 0 && t % DAY / HOUR = 0 && t % HOUR / MINUTE = 0)) (t % MINUTE) .seconds)

theorem secsToTimeString_eq (t : ℕ) : secsToTimeString t true false = (partsOf t).flatMap DurationPart.chars := by
  simp [partsOf, chars_optional, secsToTimeString, DurationUnit.char]

theorem total_partsOf (t : ℕ) : total (partsOf t) = t := by
  have hvalues := TimeConstants.values
  have hzero : ∀ n : ℕ, decide (n ≠ 0) = false → n = 0 := fun n h ↦ not_not.mp (of_decide_eq_false h)
  have hseconds : (decide (t % MINUTE ≠ 0) ||
      (decide (t / DAY = 0) && decide (t % DAY / HOUR = 0) && decide (t % HOUR / MINUTE = 0))) = false →
      t % MINUTE = 0 := fun h ↦ hzero _ (Bool.or_eq_false_iff.mp h).1
  rw [partsOf, total_append, total_append, total_append, total_optional (hzero _), total_optional (hzero _),
    total_optional (hzero _), total_optional hseconds]
  simp only [DurationUnit.length]
  rw [hvalues.1, hvalues.2.1, hvalues.2.2.1]
  omega

/-- **Durations as texts.**  A duration of less than 2^32 seconds that has been written in short form is read as it
was.  And if what the parts of a text come to fits in 32 bits, it is what is read, and nothing has wrapped on the
way. -/
theorem durationText_roundTrip : (∀ t < 2 ^ 32, TimeStringToSecs (secsToTimeString t true false) = t) ∧
      ∀ parts : List DurationPart, total parts < 2 ^ 32 →
        TimeStringToSecs (parts.flatMap DurationPart.chars) = total parts ∧
          withoutWrap (parts.flatMap DurationPart.chars) = some (total parts) := by
  have hparts : ∀ parts : List DurationPart, total parts < 2 ^ 32 →
      withoutWrap (parts.flatMap DurationPart.chars) = some (total parts) := by
    intro parts hlt
    have hzero : 0 + total parts < 2 ^ 32 := by rwa [Nat.zero_add]
    have hloop := timeStringLoop_parts parts hzero
    rwa [Nat.zero_add] at hloop
  refine ⟨fun t ht ↦ ?_, fun parts hlt ↦ ⟨TimeStringToSecs_of_withoutWrap (hparts parts hlt), hparts parts hlt⟩⟩
  rw [secsToTimeString_eq]
  simpa [total_partsOf] using TimeStringToSecs_of_withoutWrap (hparts (partsOf t) (by rwa [total_partsOf]))

/-- A day and two hours. -/
theorem durationText_roundTrip_day :
    secsToTimeString 93600 true false = "1d2h".toList ∧ TimeStringToSecs "1d2h".toList = 93600 := by
  have htext : secsToTimeString 93600 true false = "1d2h".toList := by decide +kernel
  exact ⟨htext, htext ▸ durationText_roundTrip.1 93600 (by decide)⟩

end DurationText

end Gundrak
