import Gundrak.Util.LittleEndian

/-!
# Byte buffers

A `ByteBuffer` is a block of bytes with a position for reading and one for writing.  Reading past the end
throws a `ByteBufferException`.  Appending is guarded differently: what must not be appended violates an
`ASSERT`, and that ends the server.

A packet that is made from what a client has sent can only be read, and a packet for a client is only
appended to; `ofBytes` and `written` are these two kinds.
-/

namespace Gundrak

/-- What a `ByteBuffer` throws: the root of the hierarchy, or the exception for a position outside, with the
numbers of its message. -/
inductive ByteBufferException where
  | root
  | position (add : Bool) (pos size valueSize : ℕ)
deriving DecidableEq

/-- An exception is thrown, or an `ASSERT` does not hold. -/
inductive Failure where
  | exception (e : ByteBufferException)
  | assertion
deriving DecidableEq

structure ByteBuffer where
  _rpos : ℕ
  _wpos : ℕ
  _storage : List UInt8
deriving DecidableEq

namespace ByteBuffer

/-- `ByteBuffer(MessageBuffer&&)`. -/
def ofBytes (storage : List UInt8) : ByteBuffer := ⟨0, 0, storage⟩

/-- What has been appended to an empty buffer. -/
def written (storage : List UInt8) : ByteBuffer := ⟨0, storage.length, storage⟩

section operations

variable (b : ByteBuffer)

def size : ℕ := b._storage.length

/-- `append(uint8 const*, size_t)`.  The storage is filled up to the position for writing. -/
def append (src : List UInt8) : Except Failure ByteBuffer :=
  if src.length = 0 then .error .assertion
  else if ¬ b.size < 10000000 then .error .assertion
  else
    let storage := b._storage ++ List.replicate (b._wpos - b._storage.length) 0
    .ok { b with
      _wpos := b._wpos + src.length
      _storage := storage.take b._wpos ++ src ++ storage.drop (b._wpos + src.length) }

/-- `operator<<` for an unsigned number of `w` bytes. -/
def appendNumber (w value : ℕ) : Except Failure ByteBuffer := b.append (LittleEndian.bytes w value)

/-- `contents()`: what it points at. -/
def contents : Except Failure (List UInt8) :=
  if b._storage = [] then .error (.exception .root) else .ok b._storage

/-- `read(uint8*, size_t)`. -/
def readBytes (len : ℕ) : Except Failure (List UInt8 × ByteBuffer) :=
  if b._rpos + len > b.size then .error (.exception (.position false b._rpos len b.size))
  else .ok ((b._storage.drop b._rpos).take len, { b with _rpos := b._rpos + len })

/-- `operator>>` for an unsigned number of `w` bytes. -/
def readNumber (w : ℕ) : Except Failure (ℕ × ByteBuffer) := do
  let (bytes, b) ← b.readBytes w
  return (LittleEndian.value bytes, b)

/-- The loop of `operator>>` for a text: the text and how many bytes have been read, of those that are left. -/
def readChars : List UInt8 → List UInt8 × ℕ
  | [] => ([], 0)
  | c :: cs => if c = 0 then ([], 1) else (c :: (readChars cs).1, (readChars cs).2 + 1)

/-- `operator>>` for a text, which ends at a zero or at the end of the buffer. -/
def readString : List UInt8 × ByteBuffer :=
  let read := readChars (b._storage.drop b._rpos)
  (read.1, { b with _rpos := b._rpos + read.2 })

end operations

/-! ## Appending -/

variable {b : ByteBuffer} {before src : List UInt8}

theorem append_written (hsrc : src ≠ []) (hsize : before.length < 10000000) :
    (written before).append src = .ok (written (before ++ src)) := by
  have hlength : ¬ src.length = 0 := fun h ↦ hsrc (List.length_eq_zero_iff.mp h)
  have hstorage : (written before)._storage ++ List.replicate
      ((written before)._wpos - (written before)._storage.length) 0 = before := by
    simp [written]
  have hroom : ¬ ¬ (written before).size < 10000000 := not_not.mpr hsize
  rw [append, if_neg hlength, if_neg hroom]
  simp [written]

theorem append_of_size_le (hsize : 10000000 ≤ b.size) : b.append src = .error .assertion := by
  rw [append, if_pos (not_lt.mpr hsize)]
  exact ite_self _

/-- Fields are appended, one after the other. -/
def appendFields (fields : List LittleEndian.Field) (b : ByteBuffer) : Except Failure ByteBuffer :=
  fields.foldlM (fun b f ↦ b.appendNumber f.1 f.2) b

@[simp] theorem appendFields_nil (b : ByteBuffer) : appendFields [] b = .ok b := rfl

theorem appendFields_cons (f : LittleEndian.Field) (fields : List LittleEndian.Field) (b : ByteBuffer) :
    appendFields (f :: fields) b = b.appendNumber f.1 f.2 >>= appendFields fields := rfl

theorem appendFields_append (fields fields' : List LittleEndian.Field) (b : ByteBuffer) :
    appendFields (fields ++ fields') b = appendFields fields b >>= appendFields fields' := List.foldlM_append

open LittleEndian (width encode Field)

/-- Every field has a byte at least. -/
def Proper (fields : List Field) : Prop := ∀ f ∈ fields, 0 < f.1

theorem proper_of_layout {fields : List Field} {layout : List ℕ} (h : fields.map Prod.fst = layout)
    (hlayout : ∀ w ∈ layout, 0 < w) : Proper fields :=
  fun _ hf ↦ hlayout _ (h ▸ List.mem_map_of_mem hf)

/-- **Fields can be appended** if there is room for the last of them: each one is checked against what is there
before it. -/
theorem appendFields_written {fields : List Field} {f : Field} (hproper : Proper (fields ++ [f]))
    (before : List UInt8) :
    appendFields (fields ++ [f]) (written before) =
      if before.length + width fields < 10000000 then .ok (written (before ++ encode (fields ++ [f])))
      else .error .assertion := by
  have hnonempty : ∀ f : Field, 0 < f.1 → LittleEndian.bytes f.1 f.2 ≠ [] := by
    intro f hf hnil
    have hlength := LittleEndian.length_bytes f.1 f.2
    rw [hnil, List.length_nil] at hlength
    omega
  induction fields generalizing before with
  | nil =>
    have hf := hnonempty f (hproper f (List.mem_append_right _ List.mem_cons_self))
    have hwidth : width [] = 0 := rfl
    rw [List.nil_append, appendFields_cons, appendNumber, hwidth, Nat.add_zero, LittleEndian.encode_cons,
      LittleEndian.encode_nil, List.append_nil]
    split
    · rename_i hsize
      rw [append_written hf hsize]
      rfl
    · rename_i hsize
      rw [append_of_size_le (b := written before) (not_lt.mp hsize)]
      rfl
  | cons g fields ih =>
    have hg := hnonempty g (hproper g List.mem_cons_self)
    have hwidth : width (g :: fields) = g.1 + width fields := rfl
    rw [List.cons_append, appendFields_cons, appendNumber]
    rcases lt_or_ge before.length 10000000 with hsize | hsize
    · have hrest := ih (fun f hf ↦ hproper f (List.mem_cons_of_mem _ hf)) (before ++ LittleEndian.bytes g.1 g.2)
      rw [List.length_append, LittleEndian.length_bytes, Nat.add_assoc, List.append_assoc] at hrest
      rw [append_written hg hsize, hwidth, LittleEndian.encode_cons]
      exact hrest
    · rw [append_of_size_le (b := written before) hsize, if_neg (by omega)]
      rfl

theorem foldlM_appendFields {ι : Type} {write : ByteBuffer → ι → Except Failure ByteBuffer} {fields : ι → List Field}
    (h : ∀ b i, write b i = appendFields (fields i) b) (is : List ι) (b : ByteBuffer) :
    is.foldlM write b = appendFields (is.map fields).flatten b := by
  induction is generalizing b with
  | nil => rfl
  | cons i is ih =>
    rw [List.foldlM_cons, h, List.map_cons, List.flatten_cons, appendFields_append]
    exact bind_congr ih

/-- What is appended behind `before` is read back as these records. -/
def ReadsBack (write : ByteBuffer → Except Failure ByteBuffer) (before : List UInt8) (w : ℕ) (layout : List ℕ)
    (records : List (List ℕ)) : Prop :=
  ∃ appended, write (written before) = .ok (written (before ++ appended)) ∧
    LittleEndian.readAll w layout appended = some records

theorem written_injective : Function.Injective written := fun _ _ h ↦ congrArg _storage h

/-- **Appended records are read back** if there is room for them, their count fits, none is too short and all
numbers are as expected. -/
theorem readsBack_iff {write : ByteBuffer → Except Failure ByteBuffer} {w : ℕ} {layout : List ℕ}
    {records : List (List Field)} {expected : List (List ℕ)}
    (hwrite : ∀ b, write b = appendFields ((w, records.length) :: records.flatten) b) (hw : 0 < w)
    (hproper : ∀ r ∈ records, Proper r) (hcount : expected.length = records.length)
    (hle : ∀ r ∈ records, width r ≤ layout.sum)
    (hlayout : ∀ r ∈ records, width r = layout.sum → r.map Prod.fst = layout) (before : List UInt8) :
    ReadsBack write before w layout expected ↔
      before.length + width ((w, records.length) :: records.flatten).dropLast < 10000000 ∧
        records.length < 256 ^ w ∧ (∀ r ∈ records, r.map Prod.fst = layout) ∧
          records.map LittleEndian.values = expected := by
  have hne : (w, records.length) :: records.flatten ≠ [] := List.cons_ne_nil _ _
  have hall : Proper ((w, records.length) :: records.flatten) := by
    intro f hf
    rcases List.mem_cons.mp hf with rfl | hf
    · exact hw
    · obtain ⟨r, hr, hfr⟩ := List.mem_flatten.mp hf
      exact hproper r hr f hfr
  have hsplit := List.dropLast_append_getLast hne
  have hresult := appendFields_written (hsplit.symm ▸ hall) before
  rw [hsplit, ← hwrite] at hresult
  have hencode : encode ((w, records.length) :: records.flatten) =
      LittleEndian.bytes w records.length ++ encode records.flatten := rfl
  have hread := LittleEndian.readAll_eq_some_iff (w := w) hcount hle hlayout
  rw [← hencode] at hread
  rw [ReadsBack, hresult, ← hread]
  split
  · rename_i hroom
    constructor
    · rintro ⟨appended, hok, hback⟩
      rw [List.append_cancel_left (written_injective (Except.ok.inj hok))]
      exact ⟨hroom, hback⟩
    · rintro ⟨-, hback⟩
      exact ⟨_, rfl, hback⟩
  · rename_i hroom
    refine iff_of_false ?_ fun h ↦ hroom h.1
    rintro ⟨appended, hok, -⟩
    cases hok

/-! ## Reading -/

section reading

variable (b)

/-- The bytes that have not been read. -/
def left : List UInt8 := b._storage.drop b._rpos

/-- The buffer after so many bytes more have been read. -/
def skip (len : ℕ) : ByteBuffer := { b with _rpos := b._rpos + len }

@[simp] theorem left_ofBytes (storage : List UInt8) : (ofBytes storage).left = storage := rfl

@[simp] theorem left_skip (len : ℕ) : (b.skip len).left = b.left.drop len := by
  simp [left, skip]

variable {b}

theorem readBytes_eq {len : ℕ} (hlen : 0 < len) :
    b.readBytes len = if len ≤ b.left.length then .ok (b.left.take len, b.skip len)
      else .error (.exception (.position false b._rpos len b.size)) := by
  have hiff : b._rpos + len > b.size ↔ ¬ len ≤ b.left.length := by
    rw [left, List.length_drop, size]
    omega
  rw [readBytes]
  split
  · rename_i hpast
    rw [if_neg (hiff.mp hpast)]
  · rename_i hinside
    rw [if_pos (not_not.mp (mt hiff.mpr hinside))]
    rfl

theorem readNumber_eq {w : ℕ} (hw : 0 < w) :
    b.readNumber w = if w ≤ b.left.length then .ok (LittleEndian.value (b.left.take w), b.skip w)
      else .error (.exception (.position false b._rpos w b.size)) := by
  rw [readNumber, readBytes_eq hw]
  split <;> rfl

theorem readNumber_bind_iff {α : Type} {w : ℕ} (hw : 0 < w) {f : ℕ × ByteBuffer → Except Failure α} :
    b.readNumber w >>= f = .error .assertion ↔
      w ≤ b.left.length ∧ f (LittleEndian.value (b.left.take w), b.skip w) = .error .assertion := by
  rw [readNumber_eq hw]
  split
  · rename_i hle
    exact (and_iff_right hle).symm
  · rename_i hlt
    exact iff_of_false (fun h ↦ by cases h) fun h ↦ hlt h.1

theorem readBytes_bind_iff {α : Type} {len : ℕ} (hlen : 0 < len) {f : List UInt8 × ByteBuffer → Except Failure α} :
    b.readBytes len >>= f = .error .assertion ↔
      len ≤ b.left.length ∧ f (b.left.take len, b.skip len) = .error .assertion := by
  rw [readBytes_eq hlen]
  split
  · rename_i hle
    exact (and_iff_right hle).symm
  · rename_i hlt
    exact iff_of_false (fun h ↦ by cases h) fun h ↦ hlt h.1

theorem left_readString (b : ByteBuffer) : b.readString.2.left = b.left.drop (readChars b.left).2 :=
  left_skip b (readChars b.left).2

/-- **What is left behind a text** of some bytes, if anything is. -/
theorem length_drop_readChars_iff {cs : List UInt8} {n : ℕ} (hn : 0 < n) : (cs.drop (readChars cs).2).length = n ↔
      ∃ text rest, cs = text ++ 0 :: rest ∧ (∀ c ∈ text, c ≠ 0) ∧ rest.length = n := by
  induction cs with
  | nil =>
    refine iff_of_false hn.ne ?_
    rintro ⟨text, rest, h, -, -⟩
    exact List.append_ne_nil_of_right_ne_nil text (List.cons_ne_nil _ _) h.symm
  | cons c cs ih =>
    rw [readChars]
    split
    · rename_i hzero
      constructor
      · intro h
        exact ⟨[], cs, congrArg (· :: cs) hzero, fun c hc ↦ absurd hc List.not_mem_nil, h⟩
      · rintro ⟨text, rest, h, htext, hlength⟩
        cases text with
        | nil =>
          rw [List.nil_append, List.cons.injEq] at h
          exact h.2 ▸ hlength
        | cons d text =>
          rw [List.cons_append, List.cons.injEq] at h
          exact absurd (h.1.symm.trans hzero) (htext d List.mem_cons_self)
    · rename_i hne
      rw [List.drop_succ_cons, ih]
      constructor
      · rintro ⟨text, rest, rfl, htext, hlength⟩
        exact ⟨c :: text, rest, rfl, List.forall_mem_cons.mpr ⟨hne, htext⟩, hlength⟩
      · rintro ⟨text, rest, h, htext, hlength⟩
        cases text with
        | nil =>
          rw [List.nil_append, List.cons.injEq] at h
          exact absurd h.1 hne
        | cons d text =>
          rw [List.cons_append, List.cons.injEq] at h
          exact ⟨text, rest, h.2, fun c hc ↦ htext c (List.mem_cons_of_mem _ hc), hlength⟩

end reading

end ByteBuffer

end Gundrak
