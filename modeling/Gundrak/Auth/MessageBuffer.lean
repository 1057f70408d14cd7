import Gundrak.Util.Machine

/-!
# The buffer of a connection

A `MessageBuffer` is a block of bytes with two positions: what has come in and has not been read yet is
between `_rpos` and `_wpos`.  Nothing in the class keeps the positions in this order, and `GetActiveSize`
is a difference of unsigned numbers.

`WellFormed` says that they are in order.  `unread` is what is between them, and the lemmas say what the
operations do to it as long as they are used for what is there.  So used, a buffer is a queue (`fifo_of_reachable`).
-/

namespace Gundrak

/-- The difference of two numbers of type `size_t`. -/
def sizeSub (x y : ℕ) : ℕ := if y ≤ x then x - y else 2 ^ 64 - (y - x)

/-- `MessageBuffer`, with the members of the source. -/
structure MessageBuffer where
  _wpos : ℕ
  _rpos : ℕ
  _storage : List UInt8

namespace MessageBuffer

variable (m : MessageBuffer)

/-- `MessageBuffer::Reset`. -/
def Reset : MessageBuffer := { m with _wpos := 0, _rpos := 0 }

/-- What `MessageBuffer::GetReadPointer` points at: the bytes up to the end of the storage. -/
def GetReadPointer : List UInt8 := m._storage.drop m._rpos

/-- `MessageBuffer::ReadCompleted`. -/
def ReadCompleted (bytes : ℕ) : MessageBuffer := { m with _rpos := m._rpos + bytes }

/-- `MessageBuffer::WriteCompleted`, after the bytes have been put at the write pointer. -/
def WriteCompleted (bytes : List UInt8) : MessageBuffer :=
  { m with
    _storage := m._storage.take m._wpos ++ bytes ++ m._storage.drop (m._wpos + bytes.length)
    _wpos := m._wpos + bytes.length }

/-- `MessageBuffer(std::size_t initialSize)`. -/
def ofSize (initialSize : ℕ) : MessageBuffer := ⟨0, 0, List.replicate initialSize 0⟩

/-- What is left of a buffer that has been moved from: `Move` resets the positions, and the storage is gone. -/
def moved : MessageBuffer := ⟨0, 0, []⟩

/-- `MessageBuffer::Resize`. -/
def Resize (bytes : ℕ) : MessageBuffer :=
  { m with _storage := m._storage.take bytes ++ List.replicate (bytes - m._storage.length) 0 }

/-- `MessageBuffer::GetActiveSize`. -/
def GetActiveSize : ℕ := sizeSub m._wpos m._rpos

/-- `MessageBuffer::GetRemainingSpace`. -/
def GetRemainingSpace : ℕ := m._storage.length - m._wpos

/-- `MessageBuffer::Write`, which copies `data` to the write pointer whether or not there is room for it. -/
def Write (data : List UInt8) : Option MessageBuffer :=
  if data.length = 0 then some m
  else if data.length ≤ m.GetRemainingSpace then some (m.WriteCompleted data)
  else none

/-- What is at the read pointer, changed in place. -/
def overwrite (bytes : List UInt8) : MessageBuffer :=
  { m with
    _storage := m._storage.take m._rpos ++ bytes ++ m._storage.drop (m._rpos + bytes.length) }

/-- `MessageBuffer::Normalize`. -/
def Normalize : MessageBuffer :=
  if m._rpos = 0 then m
  else
    { _storage := if m._rpos = m._wpos then m._storage
        else m.GetReadPointer.take m.GetActiveSize ++ m._storage.drop m.GetActiveSize
      _wpos := m._wpos - m._rpos
      _rpos := 0 }

/-- `MessageBuffer::EnsureFreeSpace`. -/
def EnsureFreeSpace : MessageBuffer :=
  if m.GetRemainingSpace = 0 then
    { m with
      _storage := m._storage ++ List.replicate (m._storage.length * 3 / 2 - m._storage.length) 0 }
  else m

/-- The positions are in order and inside of the storage. -/
structure WellFormed : Prop where
  read_le : m._rpos ≤ m._wpos
  write_le : m._wpos ≤ m._storage.length

/-- The bytes that have come in and have not been read. -/
def unread : List UInt8 := m.GetReadPointer.take (m._wpos - m._rpos)

variable {m}

@[simp] theorem unread_reset : m.Reset.unread = [] := by simp [unread, Reset]

theorem wellFormed_reset (m : MessageBuffer) : m.Reset.WellFormed := ⟨Nat.le_refl _, Nat.zero_le _⟩

theorem WellFormed.length_unread (h : m.WellFormed) : m.unread.length = m._wpos - m._rpos := by
  have hr := h.read_le
  have hw := h.write_le
  simp only [unread, GetReadPointer, List.length_take, List.length_drop]
  omega

theorem WellFormed.getActiveSize (h : m.WellFormed) : m.GetActiveSize = m.unread.length := by
  rw [h.length_unread]
  exact if_pos h.read_le

theorem getReadPointer_eq : m.GetReadPointer = m.unread ++ m.GetReadPointer.drop (m._wpos - m._rpos) :=
  (List.take_append_drop _ _).symm

theorem take_getReadPointer {n : ℕ} (h : n ≤ m.unread.length) : m.GetReadPointer.take n = m.unread.take n := by
  rw [getReadPointer_eq, List.take_append_of_le_length h]

theorem WellFormed.readCompleted (h : m.WellFormed) {n : ℕ} (hn : n ≤ m.unread.length) :
    (m.ReadCompleted n).WellFormed := by
  have hr := h.read_le
  rw [h.length_unread] at hn
  exact ⟨by simp only [ReadCompleted]; omega, h.write_le⟩

theorem unread_readCompleted (n : ℕ) : (m.ReadCompleted n).unread = m.unread.drop n := by
  simp [unread, ReadCompleted, GetReadPointer, List.drop_take, List.drop_drop, Nat.sub_add_eq]

section

variable (h : m.WellFormed)
include h

theorem WellFormed.writeCompleted (bytes : List UInt8) : (m.WriteCompleted bytes).WellFormed := by
  have hr := h.read_le
  have hw := h.write_le
  refine ⟨?_, ?_⟩ <;> simp only [WriteCompleted, List.length_append, List.length_take, List.length_drop] <;> omega

theorem WellFormed.unread_writeCompleted (bytes : List UInt8) :
    (m.WriteCompleted bytes).unread = m.unread ++ bytes := by
  have hr := h.read_le
  have hw := h.write_le
  simp only [unread, WriteCompleted, GetReadPointer]
  rw [List.append_assoc, List.drop_append_of_le_length (by rw [List.length_take]; omega),
    List.drop_take, ← List.append_assoc, List.take_append_of_le_length, List.take_of_length_le]
  all_goals
    simp only [List.length_append, List.length_take, List.length_drop]
    omega

theorem WellFormed.normalize : m.Normalize.WellFormed ∧ m.Normalize.unread = m.unread := by
  have hr := h.read_le
  have hw := h.write_le
  have hlen := h.length_unread
  rw [Normalize]
  split
  · exact ⟨h, rfl⟩
  · split
    · rename_i heq
      refine ⟨⟨Nat.zero_le _, by dsimp only; omega⟩, ?_⟩
      simp [unread, heq]
    · have hstore : (m.GetReadPointer.take m.GetActiveSize ++
          m._storage.drop m.GetActiveSize).length = m._storage.length := by
        rw [h.getActiveSize, List.length_append, List.length_take, List.length_drop, GetReadPointer, List.length_drop]
        omega
      refine ⟨⟨Nat.zero_le _, ?_⟩, ?_⟩
      · rw [hstore]
        dsimp only
        omega
      · have hact : m.GetActiveSize = m._wpos - m._rpos := h.getActiveSize.trans hlen
        simp only [unread, GetReadPointer, List.drop_zero, Nat.sub_zero, hact]
        rw [List.take_append_of_le_length, List.take_take, Nat.min_self]
        simp only [List.length_take, List.length_drop]
        omega

theorem WellFormed.ensureFreeSpace : m.EnsureFreeSpace.WellFormed ∧ m.EnsureFreeSpace.unread = m.unread := by
  have hr := h.read_le
  have hw := h.write_le
  rw [EnsureFreeSpace]
  split
  · refine ⟨⟨hr, Nat.le_trans hw (by simp)⟩, ?_⟩
    simp only [unread, GetReadPointer]
    rw [List.drop_append_of_le_length (by omega), List.take_append_of_le_length]
    rw [List.length_drop]
    omega
  · exact ⟨h, rfl⟩

theorem WellFormed.makeRoom : m.Normalize.EnsureFreeSpace.WellFormed ∧
    m.Normalize.EnsureFreeSpace.unread = m.unread := by
  obtain ⟨hwf, hunread⟩ := h.normalize
  obtain ⟨hwf', hunread'⟩ := hwf.ensureFreeSpace
  exact ⟨hwf', hunread'.trans hunread⟩

end

theorem wellFormed_ofSize (n : ℕ) : (ofSize n).WellFormed := ⟨Nat.le_refl _, Nat.zero_le _⟩

@[simp] theorem unread_ofSize (n : ℕ) : (ofSize n).unread = [] := by simp [unread, ofSize]

@[simp] theorem getRemainingSpace_ofSize (n : ℕ) : (ofSize n).GetRemainingSpace = n := by
  simp [GetRemainingSpace, ofSize]

/-- A buffer that has been moved from and resized is as good as new. -/
@[simp] theorem resize_moved (n : ℕ) : moved.Resize n = ofSize n := by simp [moved, Resize, ofSize]

theorem WellFormed.write (h : m.WellFormed) {data : List UInt8}
    (hroom : data.length ≤ m.GetRemainingSpace) : ∃ m', m.Write data = some m' ∧ m'.WellFormed ∧
      m'.unread = m.unread ++ data ∧ m'.GetRemainingSpace = m.GetRemainingSpace - data.length ∧
      m'._rpos = m._rpos ∧ m'._storage.length = m._storage.length := by
  have hw := h.write_le
  rw [Write]
  by_cases hempty : data.length = 0
  · rw [if_pos hempty, List.length_eq_zero_iff.mp hempty]
    exact ⟨m, rfl, h, (List.append_nil _).symm, rfl, rfl, rfl⟩
  rw [if_neg hempty, if_pos hroom]
  have hlen : (m.WriteCompleted data)._storage.length = m._storage.length := by
    rw [GetRemainingSpace] at hroom
    simp only [WriteCompleted, List.length_append, List.length_take, List.length_drop]
    omega
  refine ⟨_, rfl, h.writeCompleted data, h.unread_writeCompleted data, ?_, rfl, hlen⟩
  rw [GetRemainingSpace, hlen, GetRemainingSpace, WriteCompleted, Nat.sub_add_eq]

/-! ## A buffer in use -/

/-- A buffer, with all that has been written into it and read from it. -/
structure Traced where
  buffer : MessageBuffer
  written : List UInt8
  consumed : List UInt8

/-- How a buffer is used between resets. -/
inductive Use where
  | Write (data : List UInt8)
  | ReadCompleted (bytes : ℕ)
  | Normalize
  | EnsureFreeSpace

/-- Writes must fit, and only what is there is read. -/
def Traced.next (t : Traced) : Use → Option Traced
  | .Write data => (t.buffer.Write data).map fun m ↦ { t with buffer := m, written := t.written ++ data }
  | .ReadCompleted bytes =>
    if bytes ≤ t.buffer.GetActiveSize then
      some { t with
        buffer := t.buffer.ReadCompleted bytes
        consumed := t.consumed ++ t.buffer.GetReadPointer.take bytes }
    else none
  | .Normalize => some { t with buffer := t.buffer.Normalize }
  | .EnsureFreeSpace => some { t with buffer := t.buffer.EnsureFreeSpace }

def uses (initialSize : ℕ) : Machine Traced Use := ⟨⟨ofSize initialSize, [], []⟩, Traced.next⟩

/-- **First in, first out**, however the buffer is moved and resized. -/
theorem fifo_of_reachable {initialSize : ℕ} {t : Traced} (h : (uses initialSize).Reachable t) :
    t.buffer.WellFormed ∧ t.consumed ++ t.buffer.unread = t.written := by
  refine h.invariant (P := fun t : Traced ↦ t.buffer.WellFormed ∧ t.consumed ++ t.buffer.unread = t.written)
    ⟨wellFormed_ofSize initialSize, by simp [uses]⟩ fun s a t hs _ hn ↦ ?_
  obtain ⟨hwf, heq⟩ := hs
  cases a with
  | Write data =>
    obtain ⟨m, hm, rfl⟩ := Option.map_eq_some_iff.mp hn
    have hroom : data.length ≤ s.buffer.GetRemainingSpace := by
      by_contra hlt
      rw [Write, if_neg (by omega), if_neg hlt] at hm
      cases hm
    obtain ⟨m', hm', hwf', hunread, -⟩ := hwf.write hroom
    obtain rfl := Option.some_inj.mp (hm.symm.trans hm')
    exact ⟨hwf', by rw [hunread, ← List.append_assoc, heq]⟩
  | ReadCompleted bytes =>
    obtain ⟨hle, hn⟩ := Option.ite_none_right_eq_some.mp hn
    rw [hwf.getActiveSize] at hle
    rw [← Option.some_inj.mp hn]
    refine ⟨hwf.readCompleted hle, ?_⟩
    rw [unread_readCompleted, take_getReadPointer hle, List.append_assoc, List.take_append_drop, heq]
  | Normalize =>
    rw [← Option.some_inj.mp hn]
    exact ⟨hwf.normalize.1, by rw [hwf.normalize.2, heq]⟩
  | EnsureFreeSpace =>
    rw [← Option.some_inj.mp hn]
    exact ⟨hwf.ensureFreeSpace.1, by rw [hwf.ensureFreeSpace.2, heq]⟩

theorem fifo_of_reachable_moved : ∃ t : Traced, t.consumed = [1] ∧ t.buffer._rpos = 0 ∧
    t.buffer.WellFormed ∧ t.consumed ++ t.buffer.unread = t.written := by
  obtain ⟨t, ht, hp⟩ := (uses 2).exists_reachable [.Write [1, 2], .ReadCompleted 1, .Normalize, .Write [3]]
    (fun t ↦ t.consumed = [1] ∧ t.buffer._rpos = 0) (by decide)
  exact ⟨t, hp.1, hp.2, fifo_of_reachable ht⟩

end MessageBuffer

end Gundrak
