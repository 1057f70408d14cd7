import Mathlib

/-!
# Units of time

`TimeConstants`, in seconds.  A month has 30 days and a year has twelve months.
-/

namespace Gundrak.TimeConstants

def MINUTE : ℕ := 60

def HOUR : ℕ := MINUTE * 60

def DAY : ℕ := HOUR * 24

def WEEK : ℕ := DAY * 7

def MONTH : ℕ := DAY * 30

def YEAR : ℕ := MONTH * 12

theorem values : MINUTE = 60 ∧ HOUR = 3600 ∧ DAY = 86400 ∧ WEEK = 604800 ∧ YEAR = 31104000 := by decide

end Gundrak.TimeConstants
