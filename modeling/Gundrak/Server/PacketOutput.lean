import Gundrak.Server.WorldSocket

/-!
# What comes out of a world connection is what was put in

`wire` says what a list of packets should look like on the wire: each is its header, mixed with the next
bytes of the keystream if it is encrypted, and behind it the contents as they are.

`Update` decides by three comparisons into which buffer a packet goes.  Whatever they come to, the buffers
that are handed over and the one that is being filled carry the packets in their order (`Sending.send_spec`),
and no write is past the end of a buffer.  So the buffers of all calls together are `wire` of the packets
that have been dealt with, whatever the size of the send buffer was and however the packets were spread over
the calls (`Delivers`).

`readPackets` is a reader at the other end.  It knows the keystream and how many packets come before
encryption is on, and it finds each header by the top bit of its first byte.  It reads back the opcodes and
the contents (`readPackets_wire`), since sizes stay below `2 ^ 23`.

**`output_of_reaches`** puts both together.
-/

namespace Gundrak

open Keystream

variable {key : ℕ → UInt8} {st st' : Sending} {queued : EncryptablePacket}
  {ps qs : List EncryptablePacket} {s s' : SendingSocket}

/-! ## The wire -/

/-- Bytes as they are, or mixed with a keystream. -/
def cryptIf (encrypt : Bool) (key : ℕ → UInt8) (bytes : List UInt8) : List UInt8 :=
  if encrypt then updateData key bytes else bytes

section

variable (encrypt : Bool) (key : ℕ → UInt8) (bytes : List UInt8)

@[simp] theorem length_cryptIf : (cryptIf encrypt key bytes).length = bytes.length := by
  cases encrypt
  · rfl
  · exact length_mixWith _ _ _

theorem cryptIf_take (n : ℕ) : cryptIf encrypt key (bytes.take n) = (cryptIf encrypt key bytes).take n := by
  cases encrypt
  · rfl
  · exact mixWith_take _ _ _ _

/-- Mixing twice with the same keys is as good as not mixing. -/
@[simp] theorem cryptIf_cryptIf : cryptIf encrypt key (cryptIf encrypt key bytes) = bytes := by
  cases encrypt
  · rfl
  · refine mixWith_mixWith (fun k b ↦ ?_) key bytes
    simp

end

namespace EncryptablePacket

variable (queued)

/-- The header and the contents, as they should be on the wire. -/
def wire (key : ℕ → UInt8) : List UInt8 := cryptIf queued._encrypt key queued.header.header ++ queued.contents

/-- What is left of the keystream behind the packet: only an encrypted header uses it. -/
def keyBehind (key : ℕ → UInt8) : ℕ → UInt8 :=
  if queued._encrypt then skip key queued.header.header.length else key

theorem length_header : queued.header.header.length = queued.header.getHeaderLength := ServerPktHeader.length_header _ _

theorem four_le_length_wire (key : ℕ → UInt8) : 4 ≤ (queued.wire key).length := by
  rw [wire, List.length_append, length_cryptIf, length_header, ServerPktHeader.getHeaderLength]
  split <;> omega

end EncryptablePacket

/-- What packets should look like on the wire, one after the other. -/
def wire : (ℕ → UInt8) → List EncryptablePacket → List UInt8
  | _, [] => []
  | key, p :: ps => p.wire key ++ wire (p.keyBehind key) ps

/-- What is left of the keystream behind packets. -/
def keyBehind (key : ℕ → UInt8) (ps : List EncryptablePacket) : ℕ → UInt8 := ps.foldl (fun key p ↦ p.keyBehind key) key

theorem keyBehind_append (key : ℕ → UInt8) (ps qs : List EncryptablePacket) :
    keyBehind key (ps ++ qs) = keyBehind (keyBehind key ps) qs := List.foldl_append

theorem wire_append (key : ℕ → UInt8) (ps qs : List EncryptablePacket) :
    wire key (ps ++ qs) = wire key ps ++ wire (keyBehind key ps) qs := by
  induction ps generalizing key with
  | nil => rfl
  | cons p ps ih => rw [List.cons_append, wire, ih, wire, List.append_assoc]; rfl

/-- Without an encrypted packet the keystream does not matter, and none of it is used. -/
theorem wire_of_plain (hplain : ∀ p ∈ ps, p._encrypt = false) (key key' : ℕ → UInt8) :
    wire key ps = wire key' ps ∧ keyBehind key ps = key := by
  induction ps generalizing key key' with
  | nil => exact ⟨rfl, rfl⟩
  | cons p ps ih =>
    have hp := hplain p (List.mem_cons_self ..)
    have hkey : ∀ k, p.keyBehind k = k := fun k ↦ by
      rw [EncryptablePacket.keyBehind, hp]
      rfl
    have ih := ih (fun q hq ↦ hplain q (List.mem_cons_of_mem p hq)) key key'
    refine ⟨?_, ?_⟩
    · rw [wire, wire, hkey, hkey, ih.1, EncryptablePacket.wire, EncryptablePacket.wire, hp]
      rfl
    · simpa [keyBehind, hkey] using ih.2

/-! ## The loop of `Update` -/

/-- The bytes of buffers, one after the other, as they are sent. -/
def bytesOf (buffers : List MessageBuffer) : List UInt8 := buffers.flatMap MessageBuffer.unread

theorem bytesOf_append (xs ys : List MessageBuffer) : bytesOf (xs ++ ys) = bytesOf xs ++ bytesOf ys :=
  List.flatMap_append

theorem bytesOf_singleton (m : MessageBuffer) : bytesOf [m] = m.unread := List.flatMap_singleton ..

namespace Sending

/-- All that has been written so far. -/
def written (st : Sending) : List UInt8 := bytesOf st.handed ++ st.buffer.unread

/-- A header and contents for which there is room are written one behind the other. -/
theorem writePacket_spec {m : MessageBuffer} (hm : m.WellFormed) {header contents : List UInt8}
    (hroom : contents.length + header.length ≤ m.GetRemainingSpace) :
    ∃ m', writePacket m header contents = some m' ∧ m'.WellFormed ∧ m'.unread = m.unread ++ (header ++ contents) := by
  have hheader : header.length ≤ m.GetRemainingSpace := by omega
  obtain ⟨m₁, hm₁, hwf, hunread, hleft, -⟩ := hm.write hheader
  rw [writePacket, hm₁, Option.bind_some]
  by_cases hempty : contents = []
  · rw [if_pos hempty, hempty, List.append_nil]
    exact ⟨m₁, rfl, hwf, hunread⟩
  · have hcontents : contents.length ≤ m₁.GetRemainingSpace := by omega
    obtain ⟨m₂, hm₂, hwf', hunread', -⟩ := hwf.write hcontents
    rw [if_neg hempty]
    exact ⟨m₂, hm₂, hwf', by rw [hunread', hunread, List.append_assoc]⟩

theorem makeRoom_spec (hst : st.buffer.WellFormed) (n needed : ℕ) :
    (st.makeRoom n needed).buffer.WellFormed ∧ (st.makeRoom n needed).written = st.written ∧
      (st.makeRoom n needed)._authCrypt = st._authCrypt := by
  rw [makeRoom]
  split
  · refine ⟨by rw [MessageBuffer.resize_moved]; exact MessageBuffer.wellFormed_ofSize n, ?_, rfl⟩
    simp [written, bytesOf_append, bytesOf_singleton, MessageBuffer.resize_moved, MessageBuffer.unread_ofSize]
  · exact ⟨hst, rfl, rfl⟩

/-- A packet goes behind all that has been written, into one buffer or the other.  A packet that does not
fit into the buffer would overtake what the buffer holds, so the buffer must be empty then. -/
theorem put_spec (hst : st.buffer.WellFormed) {needed : ℕ} {header contents : List UInt8}
    (hneeded : needed = contents.length + header.length)
    (hempty : st.buffer.GetRemainingSpace < needed → st.buffer.unread = []) :
    ∃ st', st.put needed header contents = some st' ∧ st'.buffer.WellFormed ∧
      st'.written = st.written ++ (header ++ contents) ∧ st'._authCrypt = st._authCrypt := by
  rw [put]
  by_cases hroom : st.buffer.GetRemainingSpace ≥ needed
  · obtain ⟨m, hm, hwf, hunread⟩ := writePacket_spec hst (hneeded ▸ hroom)
    rw [if_pos hroom, hm]
    refine ⟨_, rfl, hwf, ?_, rfl⟩
    simp [written, hunread]
  · have hown : contents.length + header.length ≤ (MessageBuffer.ofSize needed).GetRemainingSpace := by
      rw [MessageBuffer.getRemainingSpace_ofSize, hneeded]
    obtain ⟨m, hm, hwf, hunread⟩ := writePacket_spec (MessageBuffer.wellFormed_ofSize needed) hown
    rw [MessageBuffer.unread_ofSize, List.nil_append] at hunread
    rw [if_neg hroom, hm]
    refine ⟨_, rfl, hst, ?_, rfl⟩
    simp [written, hempty (Nat.not_le.mp hroom), bytesOf_append, bytesOf_singleton, hunread]

theorem makeRoom_empty (n needed : ℕ) : (st.makeRoom n needed).buffer.GetRemainingSpace < needed →
      (st.makeRoom n needed).buffer.unread = [] := by
  rw [makeRoom]
  split
  · intro _
    rw [MessageBuffer.resize_moved, MessageBuffer.unread_ofSize]
  · intro hlt
    rename_i hge
    exact absurd hlt hge

/-- The header is encrypted with the keystream that is left, if the cipher is there when it is needed. -/
theorem encryptHeader_eq {c : AuthCrypt} (hinit : queued._encrypt = true → c._initialized = true) :
    (encryptHeader c queued).2 = cryptIf queued._encrypt c._serverEncrypt queued.header.header ∧
      (encryptHeader c queued).1._serverEncrypt = queued.keyBehind c._serverEncrypt ∧
      (encryptHeader c queued).1._initialized = c._initialized := by
  rw [encryptHeader, EncryptablePacket.keyBehind, cryptIf]
  cases henc : queued._encrypt with
  | false => exact ⟨rfl, rfl, rfl⟩
  | true =>
    rw [if_pos rfl, if_pos rfl, if_pos rfl, AuthCrypt.EncryptSend, if_pos (hinit henc)]
    exact ⟨rfl, rfl, rfl⟩

/-- What a turn of the loop, or all of it, does with the packets `ps`. -/
structure Sent (st : Sending) (ps : List EncryptablePacket) (st' : Sending) : Prop where
  wellFormed : st'.buffer.WellFormed
  written : st'.written = st.written ++ wire st._authCrypt._serverEncrypt ps
  key : st'._authCrypt._serverEncrypt = keyBehind st._authCrypt._serverEncrypt ps
  initialized : st'._authCrypt._initialized = st._authCrypt._initialized

/-- **One turn of the loop writes one packet**, behind what has been written. -/
theorem send_spec (hst : st.buffer.WellFormed)
    (hinit : queued._encrypt = true → st._authCrypt._initialized = true) (n : ℕ) :
    ∃ st', st.send n queued = some st' ∧ st.Sent [queued] st' := by
  obtain ⟨hbytes, hkey, hkept⟩ := encryptHeader_eq hinit
  have hneeded : queued.contents.length + queued.header.getHeaderLength =
      queued.contents.length + (encryptHeader st._authCrypt queued).2.length := by
    rw [hbytes, length_cryptIf, queued.length_header]
  obtain ⟨hwf, hwritten, hcrypt⟩ := makeRoom_spec (
    show ({ st with _authCrypt := (encryptHeader st._authCrypt queued).1 } : Sending).buffer.WellFormed
      from hst) n (queued.contents.length + queued.header.getHeaderLength)
  obtain ⟨st', hput, hwf', hwritten', hcrypt'⟩ := put_spec hwf hneeded (makeRoom_empty n _)
  rw [hcrypt] at hcrypt'
  refine ⟨st', hput, hwf', ?_, ?_, ?_⟩
  · rw [hwritten', hwritten, hbytes, wire, wire, List.append_nil]
    rfl
  · rw [hcrypt', hkey]
    rfl
  · rw [hcrypt', hkept]

theorem sendAll_spec (hst : st.buffer.WellFormed)
    (hinit : ∀ p ∈ ps, p._encrypt = true → st._authCrypt._initialized = true) (n : ℕ) :
    ∃ st', st.sendAll n ps = some st' ∧ st.Sent ps st' := by
  induction ps generalizing st with
  | nil => exact ⟨st, rfl, hst, (List.append_nil _).symm, rfl, rfl⟩
  | cons p ps ih =>
    obtain ⟨st₁, hsend, h₁⟩ := send_spec hst (hinit p (List.mem_cons_self ..)) n
    obtain ⟨st₂, hall, h₂⟩ := ih h₁.wellFormed fun q hq henc ↦
      h₁.initialized.trans (hinit q (List.mem_cons_of_mem p hq) henc)
    refine ⟨st₂, by rw [sendAll, hsend]; exact hall, h₂.wellFormed, ?_, ?_, ?_⟩
    · simp [h₂.written, h₁.written, h₁.key, ← wire_append]
    · rw [h₂.key, h₁.key, ← keyBehind_append]
      rfl
    · rw [h₂.initialized, h₁.initialized]

theorem bytesOf_finish (hst : st.buffer.WellFormed) : bytesOf st.finish = st.written := by
  rw [finish, written, hst.getActiveSize]
  split
  · rw [bytesOf_append, bytesOf_singleton]
  · rename_i hnot
    have hempty : st.buffer.unread = [] := List.length_eq_zero_iff.mp (by omega)
    simp [hempty]

end Sending

/-! ## The connection -/

/-- The packets that are not encrypted are those that came first. -/
def PlainFirst (plain : ℕ) (ps : List EncryptablePacket) : Prop :=
  ∀ i p, ps[i]? = some p → (p._encrypt = true ↔ plain ≤ i)

theorem PlainFirst.concat {plain : ℕ} (h : PlainFirst plain ps) (hle : plain ≤ ps.length)
    (hoff : queued._encrypt = false → plain = ps.length) :
    PlainFirst (plain + if queued._encrypt then 0 else 1) (ps ++ [queued]) := by
  intro i p hp
  rcases Nat.lt_trichotomy i ps.length with hlt | rfl | hgt
  · rw [List.getElem?_append_left hlt] at hp
    rw [h i p hp]
    split
    · rfl
    · rename_i henc
      have hall := hoff (Bool.eq_false_iff.mpr henc)
      omega
  · rw [List.getElem?_concat_length, Option.some_inj] at hp
    subst hp
    split
    · rename_i henc
      exact iff_of_true henc hle
    · rename_i henc
      have hall := hoff (Bool.eq_false_iff.mpr henc)
      exact iff_of_false henc (by omega)
  · rw [List.getElem?_eq_none (by rw [List.length_append, List.length_singleton]; omega)] at hp
    cases hp

/-- What has been handed over is what the packets look like on the wire, in the order in which they were
given to `SendPacket`. -/
structure Delivers (s : SendingSocket) : Prop where
  inOrder : s.history.dealtWith ++ s._bufferQueue = s.history.given
  plainFirst : PlainFirst s.history.plain s.history.given
  handed : bytesOf s.history.handed = wire s.history.key s.history.dealtWith
  /-- Before encryption is on, no packet is encrypted. -/
  beforeInit : s._authCrypt._initialized = false → s.history.plain = s.history.given.length
  /-- The cipher goes on where the last packet left it. -/
  afterInit : s._authCrypt._initialized = true → s.history.plain ≤ s.history.given.length ∧
    s._authCrypt._serverEncrypt = keyBehind s.history.key s.history.dealtWith

namespace Delivers

/-- Where encryption is not on, all packets are as they are. -/
theorem plain (h : Delivers s) (hoff : s._authCrypt._initialized = false) :
    ∀ p ∈ s.history.given, p._encrypt = false := by
  intro p hp
  obtain ⟨i, hi, rfl⟩ := List.mem_iff_getElem.mp hp
  have hflag := h.plainFirst i _ (List.getElem?_eq_getElem hi)
  rw [h.beforeInit hoff] at hflag
  exact Bool.eq_false_iff.mpr fun henc ↦ absurd (hflag.mp henc) (Nat.not_le.mpr hi)

theorem sendPacket (h : Delivers s) (opcode : UInt16) (contents : List UInt8) :
    Delivers (s.SendPacket opcode contents) := by
  rw [SendingSocket.SendPacket]
  by_cases hopen : s.isOpen = true
  swap
  · rw [if_neg hopen]
    exact h
  rw [if_pos hopen]
  have hle : s.history.plain ≤ s.history.given.length := by
    cases hinit : s._authCrypt._initialized with
    | true => exact (h.afterInit hinit).1
    | false => exact Nat.le_of_eq (h.beforeInit hinit)
  refine ⟨?_, h.plainFirst.concat hle h.beforeInit, h.handed, ?_, ?_⟩
  · simp [← List.append_assoc, h.inOrder]
  · intro hoff
    dsimp only at hoff ⊢
    simp [hoff, h.beforeInit hoff]
  · intro hon
    dsimp only at hon ⊢
    refine ⟨?_, (h.afterInit hon).2⟩
    rw [hon, if_pos rfl, List.length_append]
    omega

/-- With encryption comes a keystream, of which the packets so far have not used anything. -/
theorem initCrypt (h : Delivers s) (hoff : s._authCrypt._initialized = false)
    (decryptHash encryptHash : ℕ → UInt8) : Delivers (s.initCrypt decryptHash encryptHash) := by
  have hplain : ∀ p ∈ s.history.dealtWith, p._encrypt = false := fun p hp ↦
    h.plain hoff p (h.inOrder ▸ List.mem_append_left _ hp)
  obtain ⟨hwire, hkey⟩ := wire_of_plain hplain
    (AuthCrypt.Init decryptHash encryptHash)._serverEncrypt s.history.key
  exact ⟨h.inOrder, h.plainFirst, h.handed.trans hwire.symm, fun hfalse ↦ Bool.noConfusion hfalse,
    fun _ ↦ ⟨Nat.le_of_eq (h.beforeInit hoff), hkey.symm⟩⟩

theorem update (h : Delivers s) : ∃ s', s.Update = some s' ∧ Delivers s' ∧ s'._bufferQueue = [] := by
  have hinit : ∀ p ∈ s._bufferQueue, p._encrypt = true → s._authCrypt._initialized = true := by
    intro p hp henc
    by_contra hoff
    have hfalse := h.plain (Bool.eq_false_iff.mpr hoff) p (h.inOrder ▸ List.mem_append_right _ hp)
    exact Bool.noConfusion (henc.symm.trans hfalse)
  have hnew : (⟨s._authCrypt, .ofSize s._sendBufferSize, []⟩ : Sending).buffer.WellFormed :=
    MessageBuffer.wellFormed_ofSize s._sendBufferSize
  obtain ⟨st, hall, hsent⟩ := Sending.sendAll_spec hnew hinit s._sendBufferSize
  have hwritten : st.written = wire s._authCrypt._serverEncrypt s._bufferQueue := by
    rw [hsent.written, Sending.written, MessageBuffer.unread_ofSize]
    rfl
  rw [SendingSocket.Update, hall]
  refine ⟨_, rfl, ⟨?_, h.plainFirst, ?_, ?_, ?_⟩, rfl⟩
  · simp [h.inOrder]
  · dsimp only
    rw [bytesOf_append, h.handed, Sending.bytesOf_finish hsent.wellFormed, hwritten, wire_append]
    cases hcase : s._authCrypt._initialized with
    | true => rw [(h.afterInit hcase).2]
    | false =>
      have hplain : ∀ p ∈ s._bufferQueue, p._encrypt = false := fun p hp ↦
        h.plain hcase p (h.inOrder ▸ List.mem_append_right _ hp)
      rw [(wire_of_plain hplain _ _).1]
  · intro hoff
    exact h.beforeInit (hsent.initialized.symm.trans hoff)
  · intro hon
    have hon := hsent.initialized.symm.trans hon
    obtain ⟨hle, hkey⟩ := h.afterInit hon
    refine ⟨hle, ?_⟩
    rw [hsent.key, hkey, ← keyBehind_append]

theorem start : Delivers SendingSocket.start :=
  ⟨rfl, fun _ _ hp ↦ Option.noConfusion rfl (heq_of_eq hp), rfl, fun _ ↦ rfl, fun h ↦ Bool.noConfusion h⟩

theorem next (h : Delivers s) (call : SendingSocket.Call) (hn : s.next call = some s') : Delivers s' := by
  cases call with
  | SendPacket opcode contents =>
    obtain rfl := Option.some.inj hn
    exact h.sendPacket opcode contents
  | SetSendBufferSize n =>
    obtain rfl := Option.some.inj hn
    exact ⟨h.inOrder, h.plainFirst, h.handed, h.beforeInit, h.afterInit⟩
  | initCrypt decryptHash encryptHash =>
    rw [SendingSocket.next] at hn
    split at hn
    · cases hn
    · rename_i hoff
      obtain rfl := Option.some.inj hn
      exact h.initCrypt (Bool.eq_false_iff.mpr hoff) decryptHash encryptHash
  | CloseSocket =>
    obtain rfl := Option.some.inj hn
    exact ⟨h.inOrder, h.plainFirst, h.handed, h.beforeInit, h.afterInit⟩
  | Update =>
    obtain ⟨s₁, hs₁, hdel, -⟩ := h.update
    obtain rfl := Option.some.inj (hs₁.symm.trans hn)
    exact hdel

end Delivers

theorem delivers_of_reaches {ok : SendingSocket → SendingSocket.Call → Prop}
    (h : worldSocketOutput.Reaches ok s) : Delivers s :=
  h.invariant Delivers.start fun _ call _ hs _ hn ↦ hs.next call hn

/-! ## The reader -/

/-- The size and the opcode that a header says. -/
def parseHeader : List UInt8 → Option (ℕ × UInt16)
  | [s₁, s₀, c₀, c₁] =>
    if s₁.toNat < 128 then
      some (s₁.toNat * 256 + s₀.toNat, UInt16.ofNat (c₀.toNat + c₁.toNat * 256))
    else none
  | [s₂, s₁, s₀, c₀, c₁] =>
    if 128 ≤ s₂.toNat then
      some ((s₂.toNat - 128) * 65536 + s₁.toNat * 256 + s₀.toNat, UInt16.ofNat (c₀.toNat + c₁.toNat * 256))
    else none
  | _ => none

/-- How long a header is, by its first byte. -/
def headerLength (first : UInt8) : ℕ := if first.toNat < 128 then 4 else 5

/-- The packet that the bytes begin with, how long its header was, and the bytes behind it. -/
def readPacket (encrypted : Bool) (key : ℕ → UInt8) (bytes : List UInt8) :
    Option ((UInt16 × List UInt8) × ℕ × List UInt8) :=
  (cryptIf encrypted key (bytes.take 1)).head?.bind fun first ↦
    let n := headerLength first
    (parseHeader (cryptIf encrypted key (bytes.take n))).bind fun sizeAndOpcode ↦
      let payload := sizeAndOpcode.1 - 2
      if 2 ≤ sizeAndOpcode.1 ∧ n + payload ≤ bytes.length then
        some ((sizeAndOpcode.2, (bytes.drop n).take payload), n, bytes.drop (n + payload))
      else none

/-- All packets, `fuel` of them at most.  The first `plain` of them are not encrypted. -/
def readPacketsUpTo : ℕ → ℕ → (ℕ → UInt8) → List UInt8 → Option (List (UInt16 × List UInt8))
  | _, _, _, [] => some []
  | 0, _, _, _ :: _ => none
  | fuel + 1, plain, key, b :: bytes =>
    (readPacket (plain == 0) key (b :: bytes)).bind fun read ↦
      (readPacketsUpTo fuel (plain - 1) (if plain == 0 then skip key read.2.1 else key)
        read.2.2).map (read.1 :: ·)

/-- All packets.  There are no more of them than there are bytes. -/
def readPackets (plain : ℕ) (key : ℕ → UInt8) (bytes : List UInt8) :
    Option (List (UInt16 × List UInt8)) :=
  readPacketsUpTo bytes.length plain key bytes

/-! ### A header is read as it was written -/

section Header

variable {size : UInt32}

theorem toNat_lowByte (n : UInt32) : ((n &&& 0xFF).toUInt8).toNat = n.toNat % 256 := by
  rw [UInt32.toNat_toUInt8, UInt32.toNat_and]
  have hmask : n.toNat &&& 255 = n.toNat % 256 := Nat.and_two_pow_sub_one_eq_mod n.toNat 8
  simp [show (0xFF : UInt32).toNat = 255 from rfl, hmask]

theorem toNat_secondByte (n : UInt32) : (((n >>> 8) &&& 0xFF).toUInt8).toNat = n.toNat / 256 % 256 := by
  rw [toNat_lowByte, UInt32.toNat_shiftRight, show (8 : UInt32).toNat % 32 = 8 from rfl, Nat.shiftRight_eq_div_pow]

/-- The first byte of a large header has its top bit set, and the rest of it is the top of the size. -/
theorem toNat_topByte (hsize : size.toNat < 2 ^ 23) :
    ((((size >>> 16) &&& 0xFF) ||| 0x80).toUInt8).toNat = size.toNat / 65536 + 128 := by
  have hand : ((size >>> 16) &&& 0xFF).toNat = size.toNat / 65536 := by
    have hmask : size.toNat / 2 ^ 16 &&& 255 = size.toNat / 2 ^ 16 % 256 := Nat.and_two_pow_sub_one_eq_mod _ 8
    rw [UInt32.toNat_and, UInt32.toNat_shiftRight,
      show (16 : UInt32).toNat % 32 = 16 from rfl, show (0xFF : UInt32).toNat = 255 from rfl,
      Nat.shiftRight_eq_div_pow, hmask]
    omega
  have hor : ∀ n < 128, (n ||| 128) % 256 = n + 128 := by decide +kernel
  rw [UInt32.toNat_toUInt8, UInt32.toNat_or, hand]
  exact hor _ (by omega)

theorem opcode_of_bytes (cmd : UInt16) : UInt16.ofNat ((cmd &&& 0xFF).toUInt8.toNat +
    (((cmd >>> 8) &&& 0xFF).toUInt8).toNat * 256) = cmd := by
  have hlow : (cmd &&& 0xFF).toUInt8.toNat = cmd.toNat % 256 := by
    have hmask : cmd.toNat &&& 255 = cmd.toNat % 256 := Nat.and_two_pow_sub_one_eq_mod cmd.toNat 8
    rw [UInt16.toNat_toUInt8, UInt16.toNat_and, show (0xFF : UInt16).toNat = 255 from rfl, hmask, Nat.mod_mod]
  have hhigh : (((cmd >>> 8) &&& 0xFF).toUInt8).toNat = cmd.toNat / 256 % 256 := by
    have hmask : cmd.toNat / 2 ^ 8 &&& 255 = cmd.toNat / 2 ^ 8 % 256 := Nat.and_two_pow_sub_one_eq_mod _ 8
    rw [UInt16.toNat_toUInt8, UInt16.toNat_and, UInt16.toNat_shiftRight,
      show (8 : UInt16).toNat % 16 = 8 from rfl, show (0xFF : UInt16).toNat = 255 from rfl,
      Nat.shiftRight_eq_div_pow, hmask, Nat.mod_mod, show (2 : ℕ) ^ 8 = 256 from rfl]
  have hlt := cmd.toNat_lt
  have hsum : cmd.toNat % 256 + cmd.toNat / 256 % 256 * 256 = cmd.toNat := by omega
  rw [hlow, hhigh, hsum, UInt16.ofNat_toNat]

/-- **A header says what it was made of**, and how long it is, as long as sizes are below `2 ^ 23`. -/
theorem parseHeader_new (hsize : size.toNat < 2 ^ 23) (cmd : UInt16) :
    parseHeader (ServerPktHeader.new size cmd).header = some (size.toNat, cmd) ∧
      (ServerPktHeader.new size cmd).header.head?.map headerLength =
        some (ServerPktHeader.new size cmd).header.length := by
  have h₁ := toNat_secondByte size
  have h₀ := toNat_lowByte size
  rw [ServerPktHeader.new]
  cases hlarge : ServerPktHeader.isLargePacket size with
  | true =>
    have h₂ := toNat_topByte hsize
    have hge : 128 ≤ ((((size >>> 16) &&& 0xFF) ||| 0x80).toUInt8).toNat := by omega
    rw [if_pos rfl, List.singleton_append, parseHeader, if_pos hge, opcode_of_bytes]
    refine ⟨congrArg some (Prod.ext ?_ rfl), congrArg some (if_neg (Nat.not_lt.mpr hge))⟩
    omega
  | false =>
    have hsmall : size.toNat ≤ 0x7FFF :=
      Nat.not_lt.mp fun hlt ↦ of_decide_eq_false hlarge (UInt32.lt_iff_toNat_lt.mpr hlt)
    have hlt : (((size >>> 8) &&& 0xFF).toUInt8).toNat < 128 := by omega
    rw [if_neg Bool.false_ne_true, List.nil_append, parseHeader, if_pos hlt, opcode_of_bytes]
    refine ⟨congrArg some (Prod.ext ?_ rfl), congrArg some (if_pos hlt)⟩
    omega

end Header

/-! ### All packets -/

/-- A packet whose size can be told by three bytes, the top bit of which is taken. -/
def BelowLimit (p : EncryptablePacket) : Prop := p.contents.length < 2 ^ 23 - 2

theorem BelowLimit.parseHeader (h : BelowLimit queued) :
    parseHeader queued.header.header = some (queued.contents.length + 2, queued.opcode) ∧
      queued.header.header.head?.map headerLength = some queued.header.header.length := by
  have hlt : queued.contents.length + 2 < 2 ^ 23 := by
    rw [BelowLimit] at h
    omega
  have hsize : (UInt32.ofNat (queued.contents.length + 2)).toNat = queued.contents.length + 2 :=
    UInt32.toNat_ofNat_of_lt' (Nat.lt_trans hlt (by decide))
  have hparse := parseHeader_new (hsize.symm ▸ hlt) queued.opcode
  rw [hsize] at hparse
  exact hparse

/-- What a reader that knows the keystream makes of the first bytes of a packet. -/
theorem cryptIf_wire {n : ℕ} (hn : n ≤ queued.header.header.length) (bytes : List UInt8) :
    cryptIf queued._encrypt key ((queued.wire key ++ bytes).take n) = queued.header.header.take n := by
  rw [EncryptablePacket.wire, List.append_assoc, List.take_append_of_le_length (by simpa using hn),
    ← cryptIf_take, cryptIf_cryptIf]

/-- **A packet is read as it was sent**, whatever is behind it. -/
theorem readPacket_wire (h : BelowLimit queued) (key : ℕ → UInt8) (bytes : List UInt8) :
    readPacket queued._encrypt key (queued.wire key ++ bytes) =
      some ((queued.opcode, queued.contents), queued.header.header.length, bytes) := by
  obtain ⟨hparse, hlen⟩ := h.parseHeader
  obtain ⟨first, hfirst, hn⟩ := Option.map_eq_some_iff.mp hlen
  have hpos : 1 ≤ queued.header.header.length := by
    rw [← hn, headerLength]
    split <;> decide
  have hlength : (queued.wire key ++ bytes).length =
      queued.header.header.length + queued.contents.length + bytes.length := by
    rw [EncryptablePacket.wire, List.length_append, List.length_append, length_cryptIf]
  have hhead : (cryptIf queued._encrypt key queued.header.header).length =
      queued.header.header.length := length_cryptIf _ _ _
  rw [readPacket, cryptIf_wire hpos, List.head?_take, if_neg Nat.one_ne_zero, hfirst, Option.bind_some]
  dsimp only
  rw [hn, cryptIf_wire (Nat.le_refl _), List.take_length, hparse, Option.bind_some]
  dsimp only
  rw [if_pos ⟨by omega, by omega⟩, Nat.add_sub_cancel, EncryptablePacket.wire, List.append_assoc]
  rw [← hhead, List.drop_left, List.take_left, ← List.drop_drop, List.drop_left, List.drop_left]

/-- **The reader reads what was sent.** -/
theorem readPackets_wire {plain : ℕ} (hplain : PlainFirst plain ps) (hlimit : ∀ p ∈ ps, BelowLimit p)
    (key : ℕ → UInt8) :
    readPackets plain key (wire key ps) = some (ps.map fun p ↦ (p.opcode, p.contents)) := by
  -- a packet has four bytes at least, so that there is fuel enough
  suffices h : ∀ fuel, ps.length ≤ fuel → readPacketsUpTo fuel plain key (wire key ps) =
      some (ps.map fun p ↦ (p.opcode, p.contents)) by
    refine h _ ?_
    clear h hplain hlimit
    induction ps generalizing key with
    | nil => exact Nat.zero_le _
    | cons p ps ih =>
      have hp := p.four_le_length_wire key
      have hps := ih (p.keyBehind key)
      rw [wire, List.length_append, List.length_cons]
      omega
  intro fuel hfuel
  induction ps generalizing fuel plain key with
  | nil => cases fuel <;> rfl
  | cons p ps ih =>
    have hp : p._encrypt = (plain == 0) := by
      have h0 := hplain 0 p rfl
      rw [Nat.le_zero] at h0
      exact Bool.eq_iff_iff.mpr (h0.trans beq_iff_eq.symm)
    have hrest : PlainFirst (plain - 1) ps := fun i q hq ↦
      (hplain (i + 1) q hq).trans (by omega)
    have hread := readPacket_wire (hlimit p (List.mem_cons_self ..)) key (wire (p.keyBehind key) ps)
    obtain ⟨fuel, rfl⟩ : ∃ n, fuel = n + 1 := ⟨fuel - 1, by rw [List.length_cons] at hfuel; omega⟩
    obtain ⟨b, bytes, hbytes⟩ : ∃ b bytes, wire key (p :: ps) = b :: bytes := by
      have hp := p.four_le_length_wire key
      refine List.exists_cons_of_length_pos ?_
      rw [wire, List.length_append]
      omega
    rw [hbytes, readPacketsUpTo, ← hbytes, wire, ← hp, hread, Option.bind_some]
    have ih := ih hrest (fun q hq ↦ hlimit q (List.mem_cons_of_mem p hq)) (p.keyBehind key) fuel
      (by rw [List.length_cons] at hfuel; omega)
    rw [EncryptablePacket.keyBehind] at ih
    rw [EncryptablePacket.keyBehind, ih]
    rfl

/-! ## All runs -/

/-- Packets are not too long. -/
def WithinLimit : SendingSocket → SendingSocket.Call → Prop
  | _, .SendPacket _ contents => contents.length < 2 ^ 23 - 2
  | _, _ => True

instance : ∀ s call, Decidable (WithinLimit s call)
  | _, .SendPacket _ contents => inferInstanceAs (Decidable (_ < _))
  | _, .SetSendBufferSize _ => inferInstanceAs (Decidable True)
  | _, .initCrypt _ _ => inferInstanceAs (Decidable True)
  | _, .CloseSocket => inferInstanceAs (Decidable True)
  | _, .Update => inferInstanceAs (Decidable True)

theorem belowLimit_of_reaches (h : worldSocketOutput.Reaches WithinLimit s) : ∀ p ∈ s.history.given, BelowLimit p := by
  refine h.invariant (P := fun s ↦ ∀ p ∈ s.history.given, BelowLimit p) (fun _ hp ↦ nomatch hp)
    fun s call s' hs hok hn ↦ ?_
  cases call with
  | SendPacket opcode contents =>
    obtain rfl := Option.some.inj hn
    rw [SendingSocket.SendPacket]
    split
    · intro p hp
      rcases List.mem_append.mp hp with hp | hp
      · exact hs p hp
      · obtain rfl := List.mem_singleton.mp hp
        exact hok
    · exact hs
  | SetSendBufferSize n =>
    obtain rfl := Option.some.inj hn
    exact hs
  | initCrypt decryptHash encryptHash =>
    obtain ⟨_, rfl⟩ := Option.ite_none_left_eq_some.mp hn |>.imp_right Option.some.inj
    exact hs
  | CloseSocket =>
    obtain rfl := Option.some.inj hn
    exact hs
  | Update =>
    obtain ⟨st, _, rfl⟩ := Option.map_eq_some_iff.mp hn
    exact hs

/-- What the other end gets: the buffers that have been handed over are what the packets look like on the
wire, one after the other, and the reader reads the packets back. -/
def Received (s : SendingSocket) (ps : List EncryptablePacket) : Prop :=
  bytesOf s.history.handed = wire s.history.key ps ∧
    readPackets s.history.plain s.history.key (bytesOf s.history.handed) = some (ps.map fun p ↦ (p.opcode, p.contents))

/-- **What is sent is received**, whatever the sizes of the packets and of the send buffer are and however
the packets are spread over the calls of `Update`: `Update` never writes past a buffer, it leaves nothing in
the queue, and after it the other end gets all packets in the order in which they were given. -/
theorem output_of_reaches (h : worldSocketOutput.Reaches WithinLimit s) :
    Received s s.history.dealtWith ∧ s.history.dealtWith ++ s._bufferQueue = s.history.given ∧
      ∃ s', s.Update = some s' ∧ s'.history.given = s.history.given ∧ s'._bufferQueue = [] ∧
        Received s' s.history.given := by
  have hreceived : ∀ {s}, worldSocketOutput.Reaches WithinLimit s → Received s s.history.dealtWith := by
    intro s h
    have hdel := delivers_of_reaches h
    have hgiven := hdel.inOrder
    refine ⟨hdel.handed, ?_⟩
    rw [hdel.handed]
    refine readPackets_wire (fun i p hp ↦ hdel.plainFirst i p ?_) (fun p hp ↦ ?_) _
    · rw [← hgiven, List.getElem?_append_left (List.getElem?_eq_some_iff.mp hp).1]
      exact hp
    · exact belowLimit_of_reaches h p (hgiven ▸ List.mem_append_left _ hp)
  have hdel := delivers_of_reaches h
  obtain ⟨s', hs', hdel', hempty⟩ := hdel.update
  have hgiven : s'.history.given = s.history.given := by
    obtain ⟨st, _, rfl⟩ := Option.map_eq_some_iff.mp hs'
    rfl
  have hall : s'.history.dealtWith = s.history.given := by
    simp [← hgiven, ← hdel'.inOrder, hempty]
  exact ⟨hreceived h, hdel.inOrder, s', hs', hgiven, hempty,
    hall ▸ hreceived (h.step (a := .Update) trivial hs')⟩

/-- A send buffer of eight bytes, an empty packet, one that does not fit behind it, encryption, and one that
fits into no such buffer. -/
def mixedRun : List SendingSocket.Call :=
  [.SetSendBufferSize 8, .SendPacket 0x1EC [], .SendPacket 0x1EE [1, 2], .Update,
   .initCrypt (fun _ ↦ 0) (fun i ↦ UInt8.ofNat i), .SendPacket 0x3B [3],
   .SendPacket 0x1DD [1, 2, 3, 4, 5, 6], .Update]

theorem output_of_reaches_mixed : ∃ s : SendingSocket, s.history.handed.map MessageBuffer.unread =
      [[0, 2, 0xEC, 0x01], [0, 4, 0xEE, 0x01, 1, 2], [0, 2, 0x39, 3, 3],
       [4, 13, 0xDB, 6, 1, 2, 3, 4, 5, 6]] ∧
    readPackets 2 s.history.key (bytesOf s.history.handed) =
      some [(0x1EC, []), (0x1EE, [1, 2]), (0x3B, [3]), (0x1DD, [1, 2, 3, 4, 5, 6])] := by
  obtain ⟨s, hs, hhanded, hplain, hpackets⟩ := worldSocketOutput.exists_reaches WithinLimit mixedRun
    (fun s ↦ s.history.handed.map MessageBuffer.unread = [[0, 2, 0xEC, 0x01], [0, 4, 0xEE, 0x01, 1, 2], [0, 2,
      0x39, 3, 3], [4, 13, 0xDB, 6, 1, 2, 3, 4, 5, 6]] ∧
      s.history.plain = 2 ∧
      s.history.dealtWith.map (fun p ↦ (p.opcode, p.contents)) = [(0x1EC, []), (0x1EE, [1, 2]), (0x3B, [3]),
        (0x1DD, [1, 2, 3, 4, 5, 6])]) (by decide +kernel)
  have hread := (output_of_reaches hs).1.2
  exact ⟨s, hhanded, by rw [← hplain, hread, hpackets]⟩

end Gundrak
