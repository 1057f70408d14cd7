import Gundrak.Server.ByteBuffer
import Gundrak.Util.Gregorian

/-!
# Packed times

`AppendPackedTime` writes the fields of a local time into the bits of one number, and `ReadPackedTime` makes a time of
them again.  They rest on `localtime_r` and `mktime`; `TimeZone` is a pair of such functions that are inverse to each
other.

**`readsBack_iff_year`**: a whole minute from the year 2000 on is read back exactly if its year is 2031 at most.  All bits
from the twenty-fourth on are written for the year, but only five of them are read.
-/

namespace Gundrak

open Gregorian (daysInMonth isLeap Date)

/-! ## Local time -/

/-- `tm`, without what is not used. -/
structure Tm where
  tm_sec : ℕ
  tm_min : ℕ
  tm_hour : ℕ
  tm_mday : ℕ
  tm_mon : ℕ
  tm_year : ℕ
  tm_wday : ℕ

namespace Tm

/-- There is such a time. -/
structure Valid (lt : Tm) : Prop where
  sec : lt.tm_sec < 60
  min : lt.tm_min < 60
  hour : lt.tm_hour < 24
  mday_pos : 1 ≤ lt.tm_mday
  mday_le : lt.tm_mday ≤ daysInMonth (isLeap (1900 + lt.tm_year)) lt.tm_mon
  mon : lt.tm_mon < 12

/-- The same time, whatever day of the week is given. -/
structure Same (lt lt' : Tm) : Prop where
  sec : lt.tm_sec = lt'.tm_sec
  min : lt.tm_min = lt'.tm_min
  hour : lt.tm_hour = lt'.tm_hour
  mday : lt.tm_mday = lt'.tm_mday
  mon : lt.tm_mon = lt'.tm_mon
  year : lt.tm_year = lt'.tm_year

theorem Same.valid {lt lt' : Tm} (h : lt.Same lt') (hv : lt'.Valid) : lt.Valid := by
  obtain ⟨hsec, hmin, hhour, hmday, hmon, hyear⟩ := h
  obtain ⟨hsec', hmin', hhour', hmday', hmday'', hmon'⟩ := hv
  constructor <;> simp_all

/-- The date of a local time. -/
def date (lt : Tm) : Date := ⟨1900 + lt.tm_year, lt.tm_mon, lt.tm_mday⟩

end Tm

/-- `localtime_r` and `mktime`, for times from 1970 and dates from 2000 on: they are inverse to each other, where
`mktime` does not look at the day of the week, and later times are not in earlier years.  The 32 bits of a time end
in 2106. -/
structure TimeZone where
  localtime_r : ℕ → Tm
  mktime : Tm → ℕ
  mktime_of_same : ∀ time lt, lt.Same (localtime_r time) → mktime lt = time
  localtime_r_same : ∀ lt, lt.Valid → 100 ≤ lt.tm_year → (localtime_r (mktime lt)).Same lt
  valid : ∀ time, (localtime_r time).Valid
  wday_lt : ∀ time, (localtime_r time).tm_wday < 7
  sec : ∀ time, (localtime_r time).tm_sec = time % 60
  year_mono : ∀ time time', time ≤ time' → (localtime_r time).tm_year ≤ (localtime_r time').tm_year
  year_last : (localtime_r (2 ^ 32 - 1)).tm_year = 206

namespace PackedTime

variable (c : TimeZone)

/-! ## The source -/

/-- What `AppendPackedTime` makes of a local time, in 32 bits. -/
def pack (lt : Tm) : BitVec 32 :=
  BitVec.ofInt 32 ((lt.tm_year : ℤ) - 100) <<< 24 ||| BitVec.ofNat 32 lt.tm_mon <<< 20 |||
    BitVec.ofInt 32 ((lt.tm_mday : ℤ) - 1) <<< 14 ||| BitVec.ofNat 32 lt.tm_wday <<< 11 |||
    BitVec.ofNat 32 lt.tm_hour <<< 6 ||| BitVec.ofNat 32 lt.tm_min

/-- `ByteBuffer::AppendPackedTime`. -/
def AppendPackedTime (b : ByteBuffer) (time : ℕ) : Except Failure ByteBuffer :=
  b.appendNumber 4 (pack (c.localtime_r time)).toNat

/-- What `ReadPackedTime` makes of a number. -/
def unpack (packedDate : ℕ) : Tm where
  tm_sec := 0
  tm_min := packedDate &&& 0x3F
  tm_hour := packedDate >>> 6 &&& 0x1F
  tm_mday := (packedDate >>> 14 &&& 0x3F) + 1
  tm_mon := packedDate >>> 20 &&& 0xF
  tm_year := (packedDate >>> 24 &&& 0x1F) + 100
  tm_wday := 0

/-- `ByteBuffer::ReadPackedTime`. -/
def ReadPackedTime (b : ByteBuffer) : Except Failure (ℕ × ByteBuffer) := do
  let (packedDate, b) ← b.readNumber 4
  return (c.mktime (unpack packedDate) % 2 ^ 32, b)

/-- What has been appended for a time is read back. -/
def ReadsBack (time : ℕ) : Prop :=
  ∃ b b', AppendPackedTime c (.written []) time = .ok b ∧ ReadPackedTime c b = .ok (time, b')

/-! ## The bits -/

theorem or_eq_add {i a d : ℕ} (ha : 2 ^ i ∣ a) (hd : d < 2 ^ i) : a ||| d = a + d := by
  obtain ⟨k, rfl⟩ := ha
  exact (Nat.two_pow_add_eq_or_of_lt hd k).symm

theorem toNat_shift {n k : ℕ} (h : n * 2 ^ k < 2 ^ 32) : (BitVec.ofNat 32 n <<< k).toNat = n * 2 ^ k := by
  have hn : n < 2 ^ 32 := (Nat.le_mul_of_pos_right n (Nat.two_pow_pos k)).trans_lt h
  rw [BitVec.toNat_shiftLeft, BitVec.toNat_ofNat, Nat.mod_eq_of_lt hn, Nat.shiftLeft_eq, Nat.mod_eq_of_lt h]

section

variable {lt : Tm} (h : lt.Valid) (hl : 100 ≤ lt.tm_year) (hu : lt.tm_year < 228) (hw : lt.tm_wday < 7)
include h hl hu hw

theorem toNat_pack : (pack lt).toNat = (lt.tm_year - 100) * 2 ^ 24 + lt.tm_mon * 2 ^ 20 + (lt.tm_mday - 1) * 2 ^ 14 +
      lt.tm_wday * 2 ^ 11 + lt.tm_hour * 2 ^ 6 + lt.tm_min := by
  obtain ⟨-, hmin, hhour, hday, hday', hmon⟩ := h
  have hday31 := hday'.trans (Gregorian.daysInMonth_le _ _)
  have hyear : BitVec.ofInt 32 ((lt.tm_year : ℤ) - 100) = BitVec.ofNat 32 (lt.tm_year - 100) := by
    simp [show (lt.tm_year : ℤ) - 100 = ((lt.tm_year - 100 : ℕ) : ℤ) by omega]
  have hmday : BitVec.ofInt 32 ((lt.tm_mday : ℤ) - 1) = BitVec.ofNat 32 (lt.tm_mday - 1) := by
    simp [show (lt.tm_mday : ℤ) - 1 = ((lt.tm_mday - 1 : ℕ) : ℤ) by omega]
  rw [pack, hyear, hmday]
  simp only [BitVec.toNat_or]
  rw [toNat_shift (by omega), toNat_shift (by omega), toNat_shift (by omega), toNat_shift (by omega),
    toNat_shift (by omega), BitVec.toNat_ofNat, Nat.mod_eq_of_lt (by omega)]
  -- from the left, each field ends where the one before it begins
  have hmonth : (lt.tm_year - 100) * 2 ^ 24 ||| lt.tm_mon * 2 ^ 20 = (lt.tm_year - 100) * 2 ^ 24 + lt.tm_mon * 2 ^ 20 :=
    or_eq_add (i := 24) (by omega) (by omega)
  rw [hmonth, or_eq_add (i := 20) (d := (lt.tm_mday - 1) * 2 ^ 14) (by omega) (by omega),
    or_eq_add (i := 14) (d := lt.tm_wday * 2 ^ 11) (by omega) (by omega),
    or_eq_add (i := 11) (d := lt.tm_hour * 2 ^ 6) (by omega) (by omega),
    or_eq_add (i := 6) (d := lt.tm_min) (by omega) (by omega)]

/-- **What is read of a packed time** is the time itself, but only five bits of the year. -/
theorem unpack_pack :
    (unpack (pack lt).toNat).Same { lt with tm_sec := 0, tm_year := (lt.tm_year - 100) % 32 + 100 } := by
  have hmask (n k : ℕ) : n &&& 2 ^ k - 1 = n % 2 ^ k := Nat.and_two_pow_sub_one_eq_mod n k
  have hmin := h.min
  have hhour := h.hour
  have hday := h.mday_pos
  have hday' := h.mday_le.trans (Gregorian.daysInMonth_le _ _)
  have hmon := h.mon
  rw [toNat_pack h hl hu hw]
  constructor
  · rfl
  · refine (hmask _ 6).trans ?_
    dsimp only
    omega
  · refine (hmask _ 5).trans ?_
    dsimp only
    omega
  · refine (congrArg (· + 1) (hmask _ 6)).trans ?_
    dsimp only
    omega
  · refine (hmask _ 4).trans ?_
    dsimp only
    omega
  · refine (congrArg (· + 100) (hmask _ 5)).trans ?_
    dsimp only
    omega

end

/-! ## Reading back -/

variable {c} {time : ℕ}

theorem year_lt (ht : time < 2 ^ 32) : (c.localtime_r time).tm_year < 228 := by
  have hmono := c.year_mono time (2 ^ 32 - 1) (by omega)
  rw [c.year_last] at hmono
  omega

theorem ReadPackedTime_bytes (packedDate : BitVec 32) :
    ReadPackedTime c (.written (LittleEndian.bytes 4 packedDate.toNat)) = .ok
      (c.mktime (unpack packedDate.toNat) % 2 ^ 32,
        (ByteBuffer.written (LittleEndian.bytes 4 packedDate.toNat)).skip 4) := by
  have hleft : (ByteBuffer.written (LittleEndian.bytes 4 packedDate.toNat)).left =
      LittleEndian.bytes 4 packedDate.toNat := rfl
  have hfits : packedDate.toNat % 256 ^ 4 = packedDate.toNat := Nat.mod_eq_of_lt packedDate.isLt
  rw [ReadPackedTime, ByteBuffer.readNumber_eq (by norm_num), hleft, LittleEndian.length_bytes, if_pos le_rfl,
    List.take_of_length_le (LittleEndian.length_bytes 4 _).le, LittleEndian.value_bytes, hfits]
  rfl

/-- Reading back is a matter of what `mktime` makes of the fields that are read. -/
theorem readsBack_iff_mktime : ReadsBack c time ↔
    c.mktime (unpack (pack (c.localtime_r time)).toNat) % 2 ^ 32 = time := by
  have hbytes : LittleEndian.bytes 4 (pack (c.localtime_r time)).toNat ≠ [] := List.cons_ne_nil _ _
  have hwrite : AppendPackedTime c (.written []) time =
      .ok (.written (LittleEndian.bytes 4 (pack (c.localtime_r time)).toNat)) :=
    @ByteBuffer.append_written [] _ hbytes (by norm_num)
  constructor
  · rintro ⟨b, b', hb, hread⟩
    rw [hwrite, Except.ok.injEq] at hb
    rw [← hb, ReadPackedTime_bytes, Except.ok.injEq, Prod.mk.injEq] at hread
    exact hread.1
  · intro h
    have hread := ReadPackedTime_bytes (c := c) (pack (c.localtime_r time))
    rw [h] at hread
    exact ⟨_, _, hwrite, hread⟩

theorem unpack_same (hmin : time % 60 = 0) (hfrom : 100 ≤ (c.localtime_r time).tm_year) (ht : time < 2 ^ 32) :
    (unpack (pack (c.localtime_r time)).toNat).Same
      { c.localtime_r time with tm_year := ((c.localtime_r time).tm_year - 100) % 32 + 100 } := by
  simpa [← hmin, ← c.sec time] using unpack_pack (c.valid time) hfrom (year_lt ht) (c.wday_lt time)

theorem isLeap_mod {year : ℕ} (hl : 100 ≤ year) (h : isLeap (1900 + year) = true) :
    isLeap (1900 + ((year - 100) % 32 + 100)) = true := by
  simp only [isLeap, Bool.and_eq_true, Bool.or_eq_true, decide_eq_true_eq] at h ⊢
  omega

theorem valid_mod {lt : Tm} (h : lt.Valid) (hl : 100 ≤ lt.tm_year) :
    { lt with tm_year := (lt.tm_year - 100) % 32 + 100 : Tm }.Valid := by
  refine ⟨h.sec, h.min, h.hour, h.mday_pos, h.mday_le.trans ?_, h.mon⟩
  cases hleap : isLeap (1900 + lt.tm_year) with
  | true => rw [isLeap_mod hl hleap]
  | false => exact Gregorian.daysInMonth_false_le _ _

section

variable (hmin : time % 60 = 0) (hfrom : 100 ≤ (c.localtime_r time).tm_year) (ht : time < 2 ^ 32)
include hmin hfrom ht

/-- A later year is read as an earlier one, and so as an earlier time. -/
theorem year_le_of_readsBack (h : ReadsBack c time) : (c.localtime_r time).tm_year ≤ 131 := by
  have hsame := unpack_same hmin hfrom ht
  rw [readsBack_iff_mktime] at h
  by_contra! hlate
  have hvalid := hsame.valid (valid_mod (c.valid time) hfrom)
  have hyear : (unpack (pack (c.localtime_r time)).toNat).tm_year < 132 := by
    rw [hsame.year]
    simp only
    omega
  have hback := (c.localtime_r_same _ hvalid (Nat.le_add_left _ _)).year
  have hearlier : c.mktime (unpack (pack (c.localtime_r time)).toNat) < time := by
    by_contra! hle
    have := c.year_mono _ _ hle
    omega
  rw [Nat.mod_eq_of_lt (hearlier.trans ht)] at h
  exact hearlier.ne h

theorem readsBack_of_year_le (hyear : (c.localtime_r time).tm_year ≤ 131) : ReadsBack c time := by
  have hsame := unpack_same hmin hfrom ht
  have hback : ((c.localtime_r time).tm_year - 100) % 32 + 100 = (c.localtime_r time).tm_year := by omega
  rw [hback] at hsame
  rw [readsBack_iff_mktime, c.mktime_of_same time _ hsame, Nat.mod_eq_of_lt ht]

end

/-- **Which times are read back**: whole minutes from 2000 on, if the year is 2031 at most. -/
theorem readsBack_iff_year (c : TimeZone) (time : ℕ) (hmin : time % 60 = 0)
    (hfrom : 100 ≤ (c.localtime_r time).tm_year) (ht : time < 2 ^ 32) :
    ReadsBack c time ↔ (c.localtime_r time).tm_year ≤ 131 :=
  ⟨year_le_of_readsBack hmin hfrom ht, readsBack_of_year_le hmin hfrom ht⟩

/-! ## Coordinated universal time -/

/-- The time without the day of the week is a date and the seconds of the day. -/
def utcTm (time : ℕ) : Tm where
  tm_sec := time % 60
  tm_min := time / 60 % 60
  tm_hour := time / 3600 % 24
  tm_mday := (Date.ofNumber (time / 86400)).day
  tm_mon := (Date.ofNumber (time / 86400)).month
  tm_year := (Date.ofNumber (time / 86400)).year - 1900
  tm_wday := (time / 86400 + 4) % 7

/-- The seconds up to a time. -/
def utcSeconds (lt : Tm) : ℕ := lt.date.number * 86400 + lt.tm_hour * 3600 + lt.tm_min * 60 + lt.tm_sec

theorem utcTm_date (time : ℕ) : (utcTm time).date = Date.ofNumber (time / 86400) := by
  have hyear := (Date.ofNumber_valid (time / 86400)).year
  rw [Tm.date, utcTm]
  ext
  · simp only
    omega
  · rfl
  · rfl

theorem Tm.Same.date {lt lt' : Tm} (h : lt.Same lt') : lt.date = lt'.date := by
  rw [Tm.date, Tm.date, h.year, h.mon, h.mday]

theorem utcSeconds_of_same {time : ℕ} {lt : Tm} (h : lt.Same (utcTm time)) : utcSeconds lt = time := by
  rw [utcSeconds, Tm.Same.date h, utcTm_date, Date.number_ofNumber, h.hour, h.min, h.sec, utcTm]
  simp only
  omega

theorem date_valid {lt : Tm} (h : lt.Valid) (hl : 100 ≤ lt.tm_year) : lt.date.Valid :=
  ⟨(by norm_num : 1970 ≤ 1900 + 100).trans (Nat.add_le_add_left hl 1900), h.mon, h.mday_pos, h.mday_le⟩

theorem utcTm_same {lt : Tm} (h : lt.Valid) (hl : 100 ≤ lt.tm_year) : (utcTm (utcSeconds lt)).Same lt := by
  have hsec := h.sec
  have hmin := h.min
  have hhour := h.hour
  have hday : utcSeconds lt / 86400 = lt.date.number := by
    rw [utcSeconds]
    omega
  have hdate : Date.ofNumber (utcSeconds lt / 86400) = lt.date := by
    rw [hday, Date.ofNumber_number (date_valid h hl)]
  constructor
  · rw [utcTm, utcSeconds]
    simp only
    omega
  · rw [utcTm, utcSeconds]
    simp only
    omega
  · rw [utcTm, utcSeconds]
    simp only
    omega
  · simp [utcTm, hdate, Tm.date]
  · simp [utcTm, hdate, Tm.date]
  · rw [utcTm]
    simp only [hdate, Tm.date]
    omega

theorem utcTm_valid (time : ℕ) : (utcTm time).Valid := by
  obtain ⟨hyear, hmonth, hday, hday'⟩ := Date.ofNumber_valid (time / 86400)
  refine ⟨Nat.mod_lt _ (by norm_num), Nat.mod_lt _ (by norm_num), Nat.mod_lt _ (by norm_num), hday, ?_, hmonth⟩
  rw [utcTm]
  simp only [Nat.add_sub_cancel' (show 1900 ≤ (Date.ofNumber (time / 86400)).year by omega)]
  exact hday'

theorem utcTm_year {time : ℕ} {d : Date} (hd : d.Valid) (h : time / 86400 = d.number) :
    (utcTm time).tm_year = d.year - 1900 := by
  rw [utcTm, h, Date.ofNumber_number hd]

/-- Where the local time is the universal time. -/
def utc : TimeZone where
  localtime_r := utcTm
  mktime := utcSeconds
  mktime_of_same _ _ := utcSeconds_of_same
  localtime_r_same _ := utcTm_same
  valid := utcTm_valid
  wday_lt _ := Nat.mod_lt _ (by norm_num)
  sec _ := rfl
  year_mono _ _ h := Nat.sub_le_sub_right (Date.ofNumber_year_mono (Nat.div_le_div_right h)) 1900
  year_last := utcTm_year (d := ⟨2106, 1, 7⟩) ⟨by norm_num, by norm_num, by norm_num, by decide⟩ (by decide +kernel)

/-- The first of January 2008. -/
theorem readsBack_2008 : ReadsBack utc 1199145600 := by
  have hyear : (utc.localtime_r 1199145600).tm_year = 108 :=
    utcTm_year (d := ⟨2008, 0, 1⟩) ⟨by norm_num, by norm_num, by norm_num, by decide⟩ (by decide +kernel)
  exact (readsBack_iff_year utc 1199145600 (by norm_num) (by rw [hyear]; norm_num) (by norm_num)).2 (by rw [hyear]; norm_num)

/-- The first of January 2032 is read as that of 2000. -/
theorem not_readsBack : ¬∀ (c : TimeZone) (time : ℕ), time % 60 = 0 → 100 ≤ (c.localtime_r time).tm_year →
    time < 2 ^ 32 → ReadsBack c time := by
  intro h
  have hyear : (utc.localtime_r 1956528000).tm_year = 132 :=
    utcTm_year (d := ⟨2032, 0, 1⟩) ⟨by norm_num, by norm_num, by norm_num, by decide⟩ (by decide +kernel)
  have hfrom : 100 ≤ (utc.localtime_r 1956528000).tm_year := by
    rw [hyear]
    norm_num
  have hback := h utc 1956528000 (by norm_num) hfrom (by norm_num)
  have hle := year_le_of_readsBack (by norm_num) hfrom (by norm_num) hback
  simp [hyear] at hle

end PackedTime

end Gundrak
