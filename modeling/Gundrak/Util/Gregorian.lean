import Mathlib

/-!
# The Gregorian calendar from 1970 on

Time is divided into intervals of different lengths, years into months and months into days.  `starts` are the
beginnings of consecutive intervals and `locate` finds the one in which a number lies; both are about any lengths.

A `Date` has a year, a month from 0 on and a day from 1 on.  `Date.number` counts the days since the first of January
1970, and `Date.ofNumber` is its inverse.
-/

namespace Gregorian

/-! ## Consecutive intervals -/

section intervals

variable {len : ℕ → ℕ} {k n m : ℕ}

/-- Where intervals of these lengths begin, one behind the other. -/
def starts (len : ℕ → ℕ) : ℕ → ℕ
  | 0 => 0
  | k + 1 => starts len k + len k

/-- The interval in which a number lies: the last one that does not begin behind it. -/
def locate (len : ℕ → ℕ) (n : ℕ) : ℕ := Nat.findGreatest (fun k ↦ starts len k ≤ n) n

theorem starts_locate_le (len : ℕ → ℕ) (n : ℕ) : starts len (locate len n) ≤ n :=
  Nat.findGreatest_spec (P := fun k ↦ starts len k ≤ n) (Nat.zero_le n) (Nat.zero_le n)

variable (hlen : ∀ k, 0 < len k)

include hlen

theorem starts_strictMono : StrictMono (starts len) :=
  strictMono_nat_of_lt_succ fun k ↦ Nat.lt_add_of_pos_right (hlen k)

theorem lt_starts_locate : n < starts len (locate len n + 1) := by
  by_contra! h
  have hle := ((starts_strictMono hlen).le_apply (x := locate len n + 1)).trans h
  exact (Nat.le_findGreatest (P := fun k ↦ starts len k ≤ n) hle h).not_gt (Nat.lt_succ_self _)

theorem locate_eq (hl : starts len k ≤ n) (hu : n < starts len (k + 1)) : locate len n = k := by
  have hmono := starts_strictMono hlen
  have hle := Nat.lt_succ_iff.1 (hmono.lt_iff_lt.1 ((starts_locate_le len n).trans_lt hu))
  have hge := Nat.lt_succ_iff.1 (hmono.lt_iff_lt.1 (hl.trans_lt (lt_starts_locate hlen)))
  exact le_antisymm hle hge

theorem locate_mono (h : m ≤ n) : locate len m ≤ locate len n := by
  have hlt := (starts_locate_le len m).trans_lt (h.trans_lt (lt_starts_locate hlen))
  exact Nat.lt_succ_iff.1 ((starts_strictMono hlen).lt_iff_lt.1 hlt)

end intervals

/-! ## Dates -/

def isLeap (year : ℕ) : Bool := year % 4 = 0 && (year % 100 ≠ 0 || year % 400 = 0)

/-- The days of a month; there is no month behind the twelfth, but its length would be positive as well. -/
def daysInMonth (leap : Bool) (month : ℕ) : ℕ :=
  if month = 1 then if leap then 29 else 28
  else if month = 3 ∨ month = 5 ∨ month = 8 ∨ month = 10 then 30
  else 31

theorem daysInMonth_pos (leap : Bool) (month : ℕ) : 0 < daysInMonth leap month := by
  unfold daysInMonth
  cases leap <;> split <;> (try split) <;> omega

theorem daysInMonth_le (leap : Bool) (month : ℕ) : daysInMonth leap month ≤ 31 := by
  unfold daysInMonth
  cases leap <;> split <;> (try split) <;> omega

theorem daysInMonth_false_le (leap : Bool) (month : ℕ) : daysInMonth false month ≤ daysInMonth leap month := by
  unfold daysInMonth
  cases leap <;> split <;> simp

/-- The days of the year `1970 + k`. -/
def daysInYear (k : ℕ) : ℕ := starts (daysInMonth (isLeap (1970 + k))) 12

theorem daysInYear_pos (k : ℕ) : 0 < daysInYear k := starts_strictMono (daysInMonth_pos _) (by norm_num : 0 < 12)

@[ext] structure Date where
  year : ℕ
  month : ℕ
  day : ℕ

namespace Date

/-- There is such a day. -/
structure Valid (d : Date) : Prop where
  year : 1970 ≤ d.year
  month : d.month < 12
  day_pos : 1 ≤ d.day
  day_le : d.day ≤ daysInMonth (isLeap d.year) d.month

/-- The days since the first of January 1970. -/
def number (d : Date) : ℕ :=
  starts daysInYear (d.year - 1970) + starts (daysInMonth (isLeap d.year)) d.month + (d.day - 1)

/-- The date of a day. -/
def ofNumber (n : ℕ) : Date :=
  let k := locate daysInYear n
  let inYear := n - starts daysInYear k
  let month := locate (daysInMonth (isLeap (1970 + k))) inYear
  ⟨1970 + k, month, inYear - starts (daysInMonth (isLeap (1970 + k))) month + 1⟩

theorem ofNumber_valid (n : ℕ) : (ofNumber n).Valid := by
  have hpos := daysInMonth_pos (isLeap (1970 + locate daysInYear n))
  have hl := starts_locate_le daysInYear n
  have hu := lt_starts_locate daysInYear_pos (n := n)
  have hinYear : n - starts daysInYear (locate daysInYear n) <
      starts (daysInMonth (isLeap (1970 + locate daysInYear n))) 12 := by
    rw [starts] at hu
    exact Nat.sub_lt_left_of_lt_add hl hu
  constructor
  · exact Nat.le_add_right _ _
  · -- the month begins before the year is over
    exact (starts_strictMono hpos).lt_iff_lt.1 ((starts_locate_le _ _).trans_lt hinYear)
  · exact Nat.le_add_left _ _
  · have hday := lt_starts_locate hpos (n := n - starts daysInYear (locate daysInYear n))
    have hmonth := starts_locate_le (daysInMonth (isLeap (1970 + locate daysInYear n)))
      (n - starts daysInYear (locate daysInYear n))
    rw [starts] at hday
    exact Nat.sub_lt_left_of_lt_add hmonth hday

/-- **The number of a date is that of the day** from which it was made. -/
theorem number_ofNumber (n : ℕ) : (ofNumber n).number = n := by
  have hpos := daysInMonth_pos (isLeap (1970 + locate daysInYear n))
  have hl := starts_locate_le daysInYear n
  have hmonth := starts_locate_le (daysInMonth (isLeap (1970 + locate daysInYear n)))
      (n - starts daysInYear (locate daysInYear n))
  rw [number, ofNumber]
  simp only [Nat.add_sub_cancel_left, Nat.add_sub_cancel]
  omega

/-- **A date is found again** from its number. -/
theorem ofNumber_number {d : Date} (h : d.Valid) : ofNumber d.number = d := by
  obtain ⟨year, month, day⟩ := d
  obtain ⟨hyear, hmonth, hday, hday'⟩ := h
  simp only at hyear hmonth hday hday'
  obtain ⟨k, rfl⟩ : ∃ k, year = 1970 + k := ⟨year - 1970, by omega⟩
  have hpos := daysInMonth_pos (isLeap (1970 + k))
  have hinMonth : starts (daysInMonth (isLeap (1970 + k))) month + (day - 1) <
      starts (daysInMonth (isLeap (1970 + k))) (month + 1) := by
    rw [starts]
    omega
  have hinYear := hinMonth.trans_le ((starts_strictMono hpos).monotone (Nat.succ_le_of_lt hmonth))
  have hnumber : number ⟨1970 + k, month, day⟩ =
      starts daysInYear k + (starts (daysInMonth (isLeap (1970 + k))) month + (day - 1)) := by
    rw [number, Nat.add_sub_cancel_left, Nat.add_assoc]
  have hlocate : locate daysInYear (number ⟨1970 + k, month, day⟩) = k := by
    refine locate_eq daysInYear_pos ?_ ?_
    · rw [hnumber]
      exact Nat.le_add_right _ _
    · rw [hnumber, starts]
      exact Nat.add_lt_add_left hinYear _
  have hlocate' : locate (daysInMonth (isLeap (1970 + k)))
      (starts (daysInMonth (isLeap (1970 + k))) month + (day - 1)) = month :=
    locate_eq hpos (Nat.le_add_right _ _) hinMonth
  rw [ofNumber, hlocate, hnumber]
  simp [hlocate', Nat.sub_add_cancel hday]

theorem ofNumber_year_mono {m n : ℕ} (h : m ≤ n) : (ofNumber m).year ≤ (ofNumber n).year :=
  Nat.add_le_add_left (locate_mono daysInYear_pos h) 1970

end Date

end Gregorian
