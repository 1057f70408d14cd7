import Mathlib

/-!
# Numbers as bytes, and records of them

A number is written as so many bytes, the lowest first; what does not fit is cut off.  A record is a list of
fields, each with its width and its number, and a layout is the list of widths alone.  `readAll` reads back
what starts with a count of records and goes on with as many records of one layout.

Whether it can read something back is, first of all, a matter of lengths: it takes exactly as many bytes as the
count says.
-/

namespace LittleEndian

/-! ## Numbers -/

/-- A number as `w` bytes. -/
def bytes : ℕ → ℕ → List UInt8
  | 0, _ => []
  | w + 1, n => UInt8.ofNat n :: bytes w (n / 256)

/-- The number that bytes stand for. -/
def value : List UInt8 → ℕ
  | [] => 0
  | b :: bs => b.toNat + 256 * value bs

@[simp] theorem length_bytes (w n : ℕ) : (bytes w n).length = w := by
  induction w generalizing n with
  | zero => rfl
  | succ w ih => rw [bytes, List.length_cons, ih]

/-- **A number is read back**, as far as it fits. -/
@[simp] theorem value_bytes (w n : ℕ) : value (bytes w n) = n % 256 ^ w := by
  induction w generalizing n with
  | zero => rw [pow_zero, Nat.mod_one]; rfl
  | succ w ih =>
    have hbyte : (UInt8.ofNat n).toNat = n % 256 := UInt8.toNat_ofNat'
    rw [bytes, value, ih, hbyte, pow_succ', Nat.mod_mul]

/-! ## Records -/

/-- A field: its width and its number. -/
abbrev Field : Type := ℕ × ℕ

/-- The bytes of fields, one behind the other. -/
def encode (fields : List Field) : List UInt8 := fields.flatMap fun f ↦ bytes f.1 f.2

/-- How many bytes they are. -/
def width (fields : List Field) : ℕ := (fields.map Prod.fst).sum

/-- The numbers of fields, as far as they fit. -/
def values (fields : List Field) : List ℕ := fields.map fun f ↦ f.2 % 256 ^ f.1

variable {fields : List Field} {rest bs : List UInt8} {layout : List ℕ} {w n : ℕ}

@[simp] theorem encode_nil : encode [] = [] := rfl

theorem encode_cons (f : Field) (fields : List Field) : encode (f :: fields) = bytes f.1 f.2 ++ encode fields := rfl

theorem encode_append (fields fields' : List Field) : encode (fields ++ fields') = encode fields ++ encode fields' :=
  List.flatMap_append

@[simp] theorem length_encode (fields : List Field) : (encode fields).length = width fields := by
  induction fields with
  | nil => rfl
  | cons f fields ih => rw [encode_cons, List.length_append, length_bytes, ih]; rfl

/-- A number of `w` bytes is read. -/
def readNumber (w : ℕ) (bs : List UInt8) : Option (ℕ × List UInt8) :=
  if w ≤ bs.length then some (value (bs.take w), bs.drop w) else none

/-- The numbers of a record are read. -/
def readRecord : List ℕ → List UInt8 → Option (List ℕ × List UInt8)
  | [], bs => some ([], bs)
  | w :: layout, bs => do
    let (n, bs) ← readNumber w bs
    let (ns, bs) ← readRecord layout bs
    some (n :: ns, bs)

/-- So many records are read. -/
def readRecords (layout : List ℕ) : ℕ → List UInt8 → Option (List (List ℕ) × List UInt8)
  | 0, bs => some ([], bs)
  | n + 1, bs => do
    let (record, bs) ← readRecord layout bs
    let (records, bs) ← readRecords layout n bs
    some (record :: records, bs)

/-- A count of `w` bytes is read, then as many records, and nothing must be left. -/
def readAll (w : ℕ) (layout : List ℕ) (bs : List UInt8) : Option (List (List ℕ)) := do
  let (n, bs) ← readNumber w bs
  let (records, bs) ← readRecords layout n bs
  if bs = [] then some records else none

/-! ### Reading back what has been written -/

theorem readNumber_append (w n : ℕ) (rest : List UInt8) :
    readNumber w (bytes w n ++ rest) = some (n % 256 ^ w, rest) := by
  have hlength : w ≤ (bytes w n ++ rest).length := by
    rw [List.length_append, length_bytes]
    exact Nat.le_add_right _ _
  simp [readNumber, value_bytes]

theorem readRecord_encode (fields : List Field) (rest : List UInt8) :
    readRecord (fields.map Prod.fst) (encode fields ++ rest) = some (values fields, rest) := by
  induction fields with
  | nil => rfl
  | cons f fields ih =>
    rw [List.map_cons, readRecord, encode_cons, List.append_assoc, readNumber_append]
    simp only [Option.bind_eq_bind, Option.bind_some, ih]
    rfl

/-- **Records of one layout are read back.** -/
theorem readRecords_encode {records : List (List Field)} (h : ∀ r ∈ records, r.map Prod.fst = layout)
    (rest : List UInt8) :
    readRecords layout records.length (encode records.flatten ++ rest) = some (records.map values, rest) := by
  induction records with
  | nil => rfl
  | cons r records ih =>
    have hr := h r List.mem_cons_self
    have hrest := ih fun r hmem ↦ h r (List.mem_cons_of_mem _ hmem)
    rw [List.length_cons, readRecords, List.flatten_cons, encode_append, List.append_assoc, ← hr, readRecord_encode, hr]
    simp [hrest]

/-! ### How much is read -/

theorem length_of_readNumber {bs' : List UInt8} (h : readNumber w bs = some (n, bs')) : bs.length = w + bs'.length := by
  rw [readNumber, Option.ite_none_right_eq_some, Option.some_inj, Prod.mk.injEq] at h
  obtain ⟨hle, -, rfl⟩ := h
  rw [List.length_drop]
  omega

theorem length_of_readRecord {record : List ℕ} (h : readRecord layout bs = some (record, rest)) :
    bs.length = layout.sum + rest.length := by
  induction layout generalizing bs record with
  | nil =>
    rw [readRecord, Option.some_inj, Prod.mk.injEq] at h
    simp [h.2]
  | cons w layout ih =>
    rw [readRecord, Option.bind_eq_bind, Option.bind_eq_some_iff] at h
    obtain ⟨⟨n, bs'⟩, hn, h⟩ := h
    rw [Option.bind_eq_bind, Option.bind_eq_some_iff] at h
    obtain ⟨⟨ns, bs''⟩, hns, h⟩ := h
    rw [Option.some_inj, Prod.mk.injEq] at h
    obtain ⟨-, rfl⟩ := h
    rw [length_of_readNumber hn, ih hns, List.sum_cons, Nat.add_assoc]

theorem length_of_readRecords {records : List (List ℕ)} (h : readRecords layout n bs = some (records, rest)) :
    records.length = n ∧ bs.length = layout.sum * n + rest.length := by
  induction n generalizing bs records with
  | zero =>
    rw [readRecords, Option.some_inj, Prod.mk.injEq] at h
    obtain ⟨rfl, rfl⟩ := h
    exact ⟨rfl, by rw [Nat.mul_zero, Nat.zero_add]⟩
  | succ n ih =>
    rw [readRecords, Option.bind_eq_bind, Option.bind_eq_some_iff] at h
    obtain ⟨⟨record, bs'⟩, hrecord, h⟩ := h
    rw [Option.bind_eq_bind, Option.bind_eq_some_iff] at h
    obtain ⟨⟨records', bs''⟩, hrecords, h⟩ := h
    rw [Option.some_inj, Prod.mk.injEq] at h
    obtain ⟨rfl, rfl⟩ := h
    obtain ⟨hcount, hlength⟩ := ih hrecords
    refine ⟨by rw [List.length_cons, hcount], ?_⟩
    rw [length_of_readRecord hrecord, hlength, Nat.mul_succ]
    omega

/-- **What can be read back** has the count of its records in front, and their length. -/
theorem of_readAll {records : List (List ℕ)} (h : readAll w layout (bytes w n ++ bs) = some records) :
    records.length = n % 256 ^ w ∧ bs.length = layout.sum * (n % 256 ^ w) := by
  rw [readAll, readNumber_append, Option.bind_eq_bind, Option.bind_some, Option.bind_eq_bind,
    Option.bind_eq_some_iff] at h
  obtain ⟨⟨records', bs'⟩, hrecords, h⟩ := h
  rw [Option.ite_none_right_eq_some, Option.some_inj] at h
  obtain ⟨rfl, rfl⟩ := h
  exact length_of_readRecords hrecords

/-- Records of one layout are read back behind their count, if it fits. -/
theorem readAll_encode {records : List (List Field)} (hcount : records.length < 256 ^ w)
    (h : ∀ r ∈ records, r.map Prod.fst = layout) :
    readAll w layout (bytes w records.length ++ encode records.flatten) = some (records.map values) := by
  have hrecords := readRecords_encode h []
  rw [List.append_nil] at hrecords
  simp [readAll, readNumber_append, Nat.mod_eq_of_lt hcount, Option.bind_eq_bind, Option.bind_some, hrecords]

/-- Records that are not longer than their layout, and together as long as the layout says, are all as long. -/
theorem width_eq_of_sum_eq {m : ℕ} {records : List (List Field)} (hle : ∀ r ∈ records, width r ≤ m)
    (hsum : width records.flatten = m * records.length) : ∀ r ∈ records, width r = m := by
  have hwidth : ∀ rs : List (List Field), width rs.flatten = (rs.map width).sum := by
    intro rs
    rw [width, List.map_flatten, List.sum_flatten, List.map_map]
    rfl
  have hbound : ∀ rs : List (List Field), (∀ r ∈ rs, width r ≤ m) → width rs.flatten ≤ m * rs.length := by
    intro rs hrs
    have hcard := List.sum_le_card_nsmul (rs.map width) m (List.forall_mem_map.mpr hrs)
    rwa [List.length_map, smul_eq_mul, Nat.mul_comm, ← hwidth] at hcard
  induction records with
  | nil => exact fun r hr ↦ absurd hr List.not_mem_nil
  | cons r records ih =>
    have hr := hle r List.mem_cons_self
    have hrest := hbound records fun r hmem ↦ hle r (List.mem_cons_of_mem _ hmem)
    rw [hwidth, List.map_cons, List.sum_cons, ← hwidth, List.length_cons, Nat.mul_succ] at hsum
    intro r' hr'
    rcases List.mem_cons.mp hr' with rfl | hr'
    · omega
    · exact ih (fun r hmem ↦ hle r (List.mem_cons_of_mem _ hmem)) (by omega) r' hr'

/-- **What is read back of records**, some of which may be too short: the numbers that are expected, if the
count fits, no record is too short, and these are its numbers as far as they fit. -/
theorem readAll_eq_some_iff {records : List (List Field)} {expected : List (List ℕ)}
    (hcount : expected.length = records.length) (hle : ∀ r ∈ records, width r ≤ layout.sum)
    (hlayout : ∀ r ∈ records, width r = layout.sum → r.map Prod.fst = layout) :
    readAll w layout (bytes w records.length ++ encode records.flatten) = some expected ↔
      records.length < 256 ^ w ∧ (∀ r ∈ records, r.map Prod.fst = layout) ∧ records.map values = expected := by
  constructor
  · intro h
    obtain ⟨hrecords, hlength⟩ := of_readAll h
    rw [hcount] at hrecords
    have hfits : records.length < 256 ^ w := by
      have hmod := Nat.mod_lt records.length (Nat.pow_pos (n := w) (Nat.succ_pos 255))
      omega
    rw [← hrecords, length_encode] at hlength
    have hfull : ∀ r ∈ records, r.map Prod.fst = layout := fun r hr ↦
      hlayout r hr (width_eq_of_sum_eq hle hlength r hr)
    rw [readAll_encode hfits hfull, Option.some_inj] at h
    exact ⟨hfits, hfull, h⟩
  · rintro ⟨hfits, hfull, rfl⟩
    exact readAll_encode hfits hfull

/-- How many bytes there are in front of the last number of records. -/
theorem width_dropLast {records : List (List Field)} {front : List ℕ} {v : ℕ}
    (h : ∀ r ∈ records, r.map Prod.fst = front ++ [v]) (n : ℕ) :
    width ((w, n) :: records.flatten).dropLast =
      if records.length = 0 then 0 else w + (front ++ [v]).sum * records.length - v := by
  have hflatten : ∀ rs : List (List Field), (∀ r ∈ rs, r.map Prod.fst = front ++ [v]) →
      width rs.flatten = (front ++ [v]).sum * rs.length := by
    intro rs hrs
    induction rs with
    | nil => rfl
    | cons r rs ih =>
      have hr : width r = (front ++ [v]).sum := congrArg List.sum (hrs r List.mem_cons_self)
      have hrest := ih fun r hmem ↦ hrs r (List.mem_cons_of_mem _ hmem)
      rw [width] at hr hrest ⊢
      rw [List.flatten_cons, List.map_append, List.sum_append, hr, hrest, List.length_cons, Nat.mul_succ, Nat.add_comm]
  rcases List.eq_nil_or_concat' records with rfl | ⟨rs, r, rfl⟩
  · rfl
  · have hr := h r (List.mem_append_right _ List.mem_cons_self)
    obtain ⟨r', last, rfl, -, hlast⟩ := List.map_eq_append_iff.mp hr
    obtain ⟨f, rfl, hf⟩ := List.map_eq_singleton_iff.mp hlast
    have hall := hflatten _ h
    have hsplit : (w, n) :: (rs ++ [r' ++ [f]]).flatten = ((w, n) :: (rs.flatten ++ r')) ++ [f] := by simp
    rw [hsplit, List.dropLast_concat, if_neg (by simp)]
    have hwidth : width ((w, n) :: (rs.flatten ++ r')) + f.1 = w + width (rs ++ [r' ++ [f]]).flatten := by
      simp [width, Nat.add_assoc]
    rw [hall, hf] at hwidth
    exact Nat.eq_sub_of_add_eq hwidth

end LittleEndian
