import Gundrak.Server.ReadHandler

/-!
# What a world connection makes of a stream

`packetsOf` says which packets a stream consists of: each is six bytes of header, decrypted, and as many bytes
of payload as the header says.  It ends with a header that is malformed, with a packet that
`ReadDataHandler` or the callback of its query refuses, and where the stream ends within a packet.

The connection gets the stream in pieces, and a piece may end anywhere.  Between two turns of its loop it is
within some packet (`InPacket`): the raw bytes of it are in `_headerBuffer` and `_packetBuffer`, and the cipher
was turned once if the header is there.  Whatever comes next, the packets of the whole stream are those that
have been handed on and those that begin with these bytes (`OnCourse`).

So what is handed on does not depend on how the stream was cut, with one exception.  `ReadHandler` stops at
`CMSG_AUTH_SESSION`, and the callback calls `AsyncRead`; bytes that came with that packet stay in the buffer
until more come.  They are not lost, but if nothing comes they are not read.

**`input_of_reaches`** says that two connections with the same stream have handed on the same packets if
neither has such bytes left, and otherwise one has handed on the first packets of the other.
-/

namespace Gundrak

variable {peer : Peer} {s s' : ReadingSocket} {c c' : AuthCrypt} {bytes rest raw got : List UInt8}

/-! ## The packets of a stream -/

/-- What bytes begin with. -/
inductive NextPacket
  | incomplete
  | malformed
  | packet (p : ClientPacket) (c' : AuthCrypt) (rest : List UInt8)

/-- What `bytes` begin with, for a cipher that is where it was at the end of the last packet. -/
def nextPacket (c : AuthCrypt) (bytes : List UInt8) : NextPacket :=
  let crypted := c.DecryptRecv (bytes.take 6)
  let header := ClientPktHeader.ofBytes crypted.2
  if bytes.length < 6 then .incomplete
  else if ¬ header.IsValidSize ∨ ¬ header.IsValidOpcode then .malformed
  else if bytes.length < 6 + (header.size - 4) then .incomplete
  else .packet ⟨header.size, header.cmd, (bytes.drop 6).take (header.size - 4)⟩ crypted.1
    (bytes.drop (6 + (header.size - 4)))

theorem length_of_nextPacket {p : ClientPacket} (h : nextPacket c bytes = .packet p c' rest) :
    rest.length < bytes.length := by
  rw [nextPacket] at h
  split at h
  · cases h
  · split at h
    · cases h
    · split at h
      · cases h
      · cases h
        rw [List.length_drop]
        omega

/-- The packets of a stream, after `packets`. -/
def packetsOf (peer : Peer) (c : AuthCrypt) (_authed : Bool) (packets : List ClientPacket)
    (bytes : List UInt8) : List ClientPacket :=
  match _h : nextPacket c bytes with
  | .incomplete => packets
  | .malformed => packets
  | .packet p c' rest =>
    match peer.ReadDataHandler _authed packets p with
    | .Ok => packetsOf peer c' _authed (packets ++ [p]) rest
    | .Error => packets ++ [p]
    | .WaitingForQuery =>
      match peer.callback (packets ++ [p]) with
      | none => packets ++ [p]
      | some keys => packetsOf peer (.Init keys.1 keys.2) true (packets ++ [p]) rest
termination_by bytes.length
decreasing_by all_goals exact length_of_nextPacket _h

/-- The packets of a stream, where a query is waited for. -/
def packetsAfterQuery (peer : Peer) (packets : List ClientPacket) (bytes : List UInt8) :
    List ClientPacket :=
  match peer.callback packets with
  | none => packets
  | some keys => packetsOf peer (.Init keys.1 keys.2) true packets bytes

/-- The packets of the stream of a new connection. -/
def streamPackets (peer : Peer) (stream : List UInt8) : List ClientPacket :=
  packetsOf peer ReadingSocket.start._authCrypt false [] stream

theorem packetsOf_incomplete (h : nextPacket c bytes = .incomplete) (_authed : Bool)
    (packets : List ClientPacket) : packetsOf peer c _authed packets bytes = packets := by
  rw [packetsOf]
  split
  · rfl
  · rfl
  · rename_i hp
    simp [h] at hp

theorem packetsOf_malformed (h : nextPacket c bytes = .malformed) (_authed : Bool)
    (packets : List ClientPacket) : packetsOf peer c _authed packets bytes = packets := by
  rw [packetsOf]
  split
  · rfl
  · rfl
  · rename_i hp
    simp [h] at hp

theorem packetsOf_packet {p : ClientPacket} (h : nextPacket c bytes = .packet p c' rest)
    (_authed : Bool) (packets : List ClientPacket) : packetsOf peer c _authed packets bytes =
      match peer.ReadDataHandler _authed packets p with
      | .Ok => packetsOf peer c' _authed (packets ++ [p]) rest
      | .Error => packets ++ [p]
      | .WaitingForQuery => packetsAfterQuery peer (packets ++ [p]) rest := by
  rw [packetsOf]
  split
  · rename_i hp
    simp [h] at hp
  · rename_i hp
    simp [h] at hp
  · rename_i hp
    rw [h] at hp
    cases hp
    rfl

theorem prefix_packetsOf (peer : Peer) (c : AuthCrypt) (_authed : Bool) (packets : List ClientPacket)
    (bytes : List UInt8) : packets <+: packetsOf peer c _authed packets bytes := by
  induction c, _authed, packets, bytes using packetsOf.induct peer with
  | case1 c _authed packets bytes h =>
    exact (packetsOf_incomplete h _authed packets).symm ▸ List.prefix_refl packets
  | case2 c _authed packets bytes h =>
    exact (packetsOf_malformed h _authed packets).symm ▸ List.prefix_refl packets
  | case3 c _authed packets bytes p c' rest h hok ih =>
    rw [packetsOf_packet h, hok]
    exact (List.prefix_append _ _).trans ih
  | case4 c _authed packets bytes p c' rest h herror =>
    rw [packetsOf_packet h, herror]
    exact List.prefix_append _ _
  | case5 c _authed packets bytes p c' rest h hwait hnone =>
    rw [packetsOf_packet h, hwait]
    rw [packetsAfterQuery, hnone]
    exact List.prefix_append _ _
  | case6 c _authed packets bytes p c' rest h hwait keys hsome ih =>
    rw [packetsOf_packet h, hwait]
    rw [packetsAfterQuery, hsome]
    exact (List.prefix_append _ _).trans ih

/-! ## Headers and payloads in bytes -/

open ClientPktHeader

theorem hostSize_withHostSize {size : ℕ} (hsize : size < 2 ^ 16) : hostSize (withHostSize bytes size) = size := by
  have hlow : (UInt8.ofNat (size % 2 ^ 8)).toNat = size % 2 ^ 8 := UInt8.toNat_ofNat_of_lt' (Nat.mod_lt _ (by decide))
  have hhigh : (UInt8.ofNat (size / 2 ^ 8)).toNat = size / 2 ^ 8 := UInt8.toNat_ofNat_of_lt' (show _ < 2 ^ 8 by omega)
  have hbytes : hostSize (withHostSize bytes size) =
      (UInt8.ofNat (size % 2 ^ 8)).toNat + (UInt8.ofNat (size / 2 ^ 8)).toNat * 2 ^ 8 := rfl
  omega

theorem cmdOf_withHostSize (size : ℕ) : cmdOf (withHostSize bytes size) = cmdOf bytes := by
  have hbyte : ∀ i, byteOf (withHostSize bytes size) (i + 2) = byteOf bytes (i + 2) := by
    intro i
    rw [byteOf, byteOf, withHostSize, List.getD_cons_succ, List.getD_cons_succ,
      List.getD_eq_getElem?_getD, List.getD_eq_getElem?_getD, List.getElem?_drop, Nat.add_comm i]
  rw [cmdOf, cmdOf, hbyte 0, hbyte 1, hbyte 2, hbyte 3]

theorem length_decryptRecv (c : AuthCrypt) (bytes : List UInt8) : (c.DecryptRecv bytes).2.length = bytes.length := by
  rw [AuthCrypt.DecryptRecv]
  split
  · exact Keystream.length_mixWith _ _ _
  · rfl

theorem nextPacket_malformed (hraw : raw.length = 6) (hbad : ¬ (ofBytes (c.DecryptRecv raw).2).IsValidSize ∨
      ¬ (ofBytes (c.DecryptRecv raw).2).IsValidOpcode) :
    nextPacket c (raw ++ rest) = .malformed := by
  have htake : (raw ++ rest).take 6 = raw := hraw ▸ List.take_left
  have hlen : ¬ (raw ++ rest).length < 6 := by
    rw [List.length_append]
    omega
  rw [nextPacket, htake, if_neg hlen, if_pos hbad]

theorem nextPacket_short (h : bytes.length < 6) : nextPacket c bytes = .incomplete := by
  rw [nextPacket, if_pos h]

/-- A good header, and a payload behind it that is full or not. -/
theorem nextPacket_header (rest : List UInt8) (hraw : raw.length = 6)
    (hgood : (ofBytes (c.DecryptRecv raw).2).IsValidSize ∧ (ofBytes (c.DecryptRecv raw).2).IsValidOpcode) :
    (got.length < (ofBytes (c.DecryptRecv raw).2).size - 4 → nextPacket c (raw ++ got) = .incomplete) ∧
    (got.length = (ofBytes (c.DecryptRecv raw).2).size - 4 → nextPacket c (raw ++ got ++ rest) = .packet
        ⟨(ofBytes (c.DecryptRecv raw).2).size, (ofBytes (c.DecryptRecv raw).2).cmd, got⟩
        (c.DecryptRecv raw).1 rest) := by
  have hnot : ¬ (¬ (ofBytes (c.DecryptRecv raw).2).IsValidSize ∨ ¬ (ofBytes (c.DecryptRecv raw).2).IsValidOpcode) :=
    fun h ↦ h.elim (· hgood.1) (· hgood.2)
  refine ⟨fun hlt ↦ ?_, fun heq ↦ ?_⟩
  · have htake : (raw ++ got).take 6 = raw := hraw ▸ List.take_left
    rw [nextPacket, htake, List.length_append, hraw, if_neg (by omega), if_neg hnot, if_pos (by omega)]
  · have htake : (raw ++ got ++ rest).take 6 = raw := by
      simp [← hraw]
    have hpayload : ((raw ++ got ++ rest).drop 6).take
        ((ofBytes (c.DecryptRecv raw).2).size - 4) = got := by
      simp [← hraw, ← heq]
    have hrest : (raw ++ got ++ rest).drop (6 + ((ofBytes (c.DecryptRecv raw).2).size - 4)) = rest := by
      simp [← heq, ← hraw]
    rw [nextPacket, htake, List.length_append, List.length_append, hraw, if_neg (by omega), if_neg hnot,
      if_neg (by omega), hpayload, hrest]

/-! ## Buffers that are being filled -/

/-- A buffer of `n` bytes, the first of which are `bytes`, with nothing read from it. -/
structure Filled (m : MessageBuffer) (n : ℕ) (bytes : List UInt8) : Prop where
  wellFormed : m.WellFormed
  rpos : m._rpos = 0
  size : m._storage.length = n
  unread : m.unread = bytes

namespace Filled

variable {m : MessageBuffer} {n : ℕ}

section

variable (h : Filled m n bytes)
include h

theorem wpos : m._wpos = bytes.length := by
  simp [← h.unread, h.wellFormed.length_unread, h.rpos]

theorem getRemainingSpace : m.GetRemainingSpace = n - bytes.length := by
  rw [MessageBuffer.GetRemainingSpace, h.size, h.wpos]

theorem length_le : bytes.length ≤ n := by
  rw [← h.wpos, ← h.size]
  exact h.wellFormed.write_le

theorem write {data : List UInt8} (hroom : bytes.length + data.length ≤ n) :
    ∃ m', m.Write data = some m' ∧ Filled m' n (bytes ++ data) := by
  obtain ⟨m', hm', hwf, hunread, -, hrpos, hsize⟩ := h.wellFormed.write
    (show data.length ≤ m.GetRemainingSpace by rw [h.getRemainingSpace]; omega)
  exact ⟨m', hm', hwf, hrpos.trans h.rpos, hsize.trans h.size, by rw [hunread, h.unread]⟩

/-- A buffer that is full holds its bytes and nothing else. -/
theorem storage (hfull : bytes.length = n) : m._storage = bytes := by
  have hunread := h.unread
  simpa [MessageBuffer.unread, MessageBuffer.GetReadPointer, h.rpos, h.wpos, hfull, ← h.size] using hunread

theorem getReadPointer (hfull : bytes.length = n) : m.GetReadPointer = bytes := by
  simp [MessageBuffer.GetReadPointer, h.rpos, h.storage hfull]

theorem reset : Filled m.Reset n [] := ⟨MessageBuffer.wellFormed_reset m, rfl, h.size, MessageBuffer.unread_reset⟩

theorem overwrite (hfull : bytes.length = n) {data : List UInt8}
    (hdata : data.length = n) : Filled (m.overwrite data) n data := by
  have hstorage : (m.overwrite data)._storage = data := by
    simp only [MessageBuffer.overwrite, h.rpos, List.take_zero, List.nil_append, Nat.zero_add]
    rw [List.drop_eq_nil_of_le (by rw [h.size, hdata]), List.append_nil]
  have hw : (m.overwrite data)._wpos = n := h.wpos.trans hfull
  have hr : (m.overwrite data)._rpos = 0 := h.rpos
  refine ⟨⟨by omega, by rw [hstorage]; omega⟩, hr, by rw [hstorage, hdata], ?_⟩
  simp [MessageBuffer.unread, MessageBuffer.GetReadPointer, hr, hw, hstorage, ← hdata]

end

/-- A buffer with nothing in it, after it has been resized. -/
theorem resize (hw : m._wpos = 0) (hr : m._rpos = 0) (n : ℕ) : Filled (m.Resize n) n [] := by
  have hw' : (m.Resize n)._wpos = 0 := hw
  have hr' : (m.Resize n)._rpos = 0 := hr
  refine ⟨⟨by omega, by omega⟩, hr', ?_, ?_⟩
  · simp only [MessageBuffer.Resize, List.length_append, List.length_take, List.length_replicate]
    omega
  · simp [MessageBuffer.unread, hw', hr']

end Filled

/-! ## A connection within a packet -/

/-- The header `raw` has been read and decrypted, and `got` of its payload is there. -/
structure InPayload (s : ReadingSocket) (c : AuthCrypt) (raw got : List UInt8) : Prop where
  length_raw : raw.length = 6
  valid : (ofBytes (c.DecryptRecv raw).2).IsValidSize ∧ (ofBytes (c.DecryptRecv raw).2).IsValidOpcode
  crypt : s._authCrypt = (c.DecryptRecv raw).1
  header : Filled s._headerBuffer 6
    (withHostSize (c.DecryptRecv raw).2 ((ofBytes (c.DecryptRecv raw).2).size - 4))
  payload : Filled s._packetBuffer ((ofBytes (c.DecryptRecv raw).2).size - 4) got

/-- The bytes `got` of a header have been read. -/
structure InHeader (s : ReadingSocket) (c : AuthCrypt) (got : List UInt8) : Prop where
  crypt : s._authCrypt = c
  header : Filled s._headerBuffer 6 got
  wpos : s._packetBuffer._wpos = 0
  rpos : s._packetBuffer._rpos = 0

/-- The connection is within a packet of which it has read `bytes`, and `c` is the cipher before it. -/
inductive InPacket (s : ReadingSocket) (c : AuthCrypt) : List UInt8 → Prop
  | header {bytes : List UInt8} (h : InHeader s c bytes) (hlt : bytes.length < 6) : InPacket s c bytes
  | payload {raw got : List UInt8} (h : InPayload s c raw got)
      (hlt : got.length < (ofBytes (c.DecryptRecv raw).2).size - 4) : InPacket s c (raw ++ got)

theorem InPacket.incomplete (h : InPacket s c bytes) : nextPacket c bytes = .incomplete := by
  cases h with
  | header h hlt => exact nextPacket_short hlt
  | payload h hlt => exact (nextPacket_header [] h.length_raw h.valid).1 hlt

/-- The packets of all that has come in are those that have been handed on and those that are to come,
whatever comes next. -/
structure OnCourse (peer : Peer) (s : ReadingSocket) : Prop where
  wellFormed : s._readBuffer.WellFormed
  sizes : ∀ p ∈ s.packets, p.payload.length + 4 = p.size
  within : s.isOpen = true → s.activity ≠ .waitingForQuery → ∃ c bytes, InPacket s c bytes ∧
    ∀ rest, streamPackets peer (s.stream ++ rest) =
      packetsOf peer c s._authed s.packets (bytes ++ (s._readBuffer.unread ++ rest))
  waiting : s.isOpen = true → s.activity = .waitingForQuery → InHeader s s._authCrypt [] ∧
    ∀ rest, streamPackets peer (s.stream ++ rest) = packetsAfterQuery peer s.packets (s._readBuffer.unread ++ rest)
  closed : s.isOpen = false → ∀ rest, streamPackets peer (s.stream ++ rest) = s.packets

namespace OnCourse

theorem start : OnCourse peer ReadingSocket.start where
  wellFormed := MessageBuffer.wellFormed_ofSize _
  sizes := fun _ hp ↦ nomatch hp
  within := by
    refine fun _ _ ↦ ⟨_, [], .header ⟨rfl, ?_, rfl, rfl⟩ (by decide), fun rest ↦ ?_⟩
    · exact ⟨MessageBuffer.wellFormed_ofSize _, rfl, List.length_replicate, MessageBuffer.unread_ofSize _⟩
    · rw [show ReadingSocket.start._readBuffer.unread = [] from MessageBuffer.unread_ofSize _]
      rfl
  waiting := fun _ h ↦ ReadActivity.noConfusion h
  closed := fun h ↦ Bool.noConfusion h

section

variable (hwf : s._readBuffer.WellFormed)
include hwf

theorem asyncRead (hsizes : ∀ p ∈ s.packets, p.payload.length + 4 = p.size) (hopen : s.isOpen = true)
    (hwithin : InPacket s c bytes) (hpackets : ∀ rest, streamPackets peer (s.stream ++ rest) =
      packetsOf peer c s._authed s.packets (bytes ++ (s._readBuffer.unread ++ rest))) :
    OnCourse peer s.AsyncRead := by
  obtain ⟨hwf', hunread⟩ := hwf.makeRoom
  have hwithin' : InPacket s.AsyncRead c bytes := by
    cases hwithin with
    | header h hlt => exact .header ⟨h.crypt, h.header, h.wpos, h.rpos⟩ hlt
    | payload h hlt => exact .payload ⟨h.length_raw, h.valid, h.crypt, h.header, h.payload⟩ hlt
  refine ⟨hwf', hsizes, fun _ _ ↦ ⟨c, bytes, hwithin', fun rest ↦ ?_⟩,
    fun _ h ↦ ReadActivity.noConfusion h, fun h ↦ Bool.noConfusion (hopen.symm.trans h)⟩
  have hunread' : s.AsyncRead._readBuffer.unread = s._readBuffer.unread := hunread
  rw [hunread']
  exact hpackets rest

/-- A packet that is complete is handed on, and so it is in the stream. -/
theorem handlePacket (hsizes : ∀ p ∈ s.packets, p.payload.length + 4 = p.size) (hopen : s.isOpen = true)
    (hact : s.activity = .handling) (hin : InPayload s c raw got)
    (hfull : got.length = (ofBytes (c.DecryptRecv raw).2).size - 4)
    (hpackets : ∀ rest, streamPackets peer (s.stream ++ rest) =
      packetsOf peer c s._authed s.packets (raw ++ got ++ (s._readBuffer.unread ++ rest))) :
    OnCourse peer (s.handlePacket peer) := by
  obtain ⟨⟨hge, hle⟩, -⟩ := hin.valid
  have hlen : (withHostSize (c.DecryptRecv raw).2
      ((ofBytes (c.DecryptRecv raw).2).size - 4)).length = 6 := by
    simp [withHostSize, length_decryptRecv, hin.length_raw]
  have hpacket : s.packet = ⟨(ofBytes (c.DecryptRecv raw).2).size, (ofBytes (c.DecryptRecv raw).2).cmd, got⟩ := by
    rw [ReadingSocket.packet, hin.header.getReadPointer hlen, hin.payload.storage hfull,
      hostSize_withHostSize (by omega), cmdOf_withHostSize, Nat.sub_add_cancel hge]
    rfl
  have hsizes' : ∀ p ∈ s.packets ++ [s.packet], p.payload.length + 4 = p.size := by
    intro p hp
    rcases List.mem_append.mp hp with hp | hp
    · exact hsizes p hp
    · obtain rfl := List.mem_singleton.mp hp
      rw [hpacket]
      dsimp only
      omega
  have hnext : ∀ rest, streamPackets peer (s.stream ++ rest) =
      match peer.ReadDataHandler s._authed s.packets s.packet with
      | .Ok => packetsOf peer s._authCrypt s._authed (s.packets ++ [s.packet])
          (s._readBuffer.unread ++ rest)
      | .Error => s.packets ++ [s.packet]
      | .WaitingForQuery => packetsAfterQuery peer (s.packets ++ [s.packet])
          (s._readBuffer.unread ++ rest) := by
    intro rest
    rw [hpackets rest, packetsOf_packet ((nextPacket_header _ hin.length_raw hin.valid).2 hfull), hpacket, hin.crypt]
  have hfresh : ∀ t : ReadingSocket, t._headerBuffer = s._headerBuffer.Reset →
      t._packetBuffer = MessageBuffer.moved → InHeader t t._authCrypt [] := by
    intro t hheader hpacket
    exact ⟨rfl, hheader ▸ hin.header.reset, by rw [hpacket]; rfl, by rw [hpacket]; rfl⟩
  rw [ReadingSocket.handlePacket]
  cases hresult : peer.ReadDataHandler s._authed s.packets s.packet with
  | Ok =>
    refine ⟨hwf, hsizes', fun _ _ ↦ ⟨_, [], .header (hfresh _ rfl rfl) (by decide), fun rest ↦ ?_⟩,
      fun _ h ↦ ReadActivity.noConfusion (hact.symm.trans h),
      fun h ↦ Bool.noConfusion (hopen.symm.trans h)⟩
    have hnext := hnext rest
    rw [hresult] at hnext
    exact hnext
  | WaitingForQuery =>
    refine ⟨hwf, hsizes', fun _ h ↦ absurd rfl h, fun _ _ ↦ ⟨hfresh _ rfl rfl, fun rest ↦ ?_⟩,
      fun h ↦ Bool.noConfusion (hopen.symm.trans h)⟩
    have hnext := hnext rest
    rw [hresult] at hnext
    exact hnext
  | Error =>
    refine ⟨hwf, hsizes', fun h ↦ Bool.noConfusion h, fun h ↦ Bool.noConfusion h, fun _ rest ↦ ?_⟩
    have hnext := hnext rest
    rw [hresult] at hnext
    exact hnext

/-- The bytes that a turn takes from the front of what has come in. -/
theorem taken (room : ℕ) : ∃ data, s._readBuffer.GetReadPointer.take (min s._readBuffer.GetActiveSize room) = data ∧
      data.length = min s._readBuffer.GetActiveSize room ∧
      (s._readBuffer.ReadCompleted (min s._readBuffer.GetActiveSize room)).WellFormed ∧
      s._readBuffer.unread = data ++ (s._readBuffer.ReadCompleted (min s._readBuffer.GetActiveSize room)).unread := by
  have hle : min s._readBuffer.GetActiveSize room ≤ s._readBuffer.unread.length := by
    rw [hwf.getActiveSize]
    exact Nat.min_le_left _ _
  refine ⟨_, MessageBuffer.take_getReadPointer hle, ?_, hwf.readCompleted hle, ?_⟩
  · rw [List.length_take, Nat.min_eq_left hle]
  · simp [MessageBuffer.unread_readCompleted]

/-- The payload is read on, and if it is complete the packet is handed on. -/
theorem readPayload (hsizes : ∀ p ∈ s.packets, p.payload.length + 4 = p.size) (hopen : s.isOpen = true)
    (hact : s.activity = .handling) (hin : InPayload s c raw got)
    (hpackets : ∀ rest, streamPackets peer (s.stream ++ rest) =
      packetsOf peer c s._authed s.packets (raw ++ got ++ (s._readBuffer.unread ++ rest))) :
    ∃ s', s.readPayload peer = some s' ∧ OnCourse peer s' := by
  have hroom := hin.payload.getRemainingSpace
  have hle := hin.payload.length_le
  rw [ReadingSocket.readPayload]
  by_cases hmore : s._packetBuffer.GetRemainingSpace > 0
  swap
  · rw [if_neg hmore]
    exact ⟨_, rfl, handlePacket hwf hsizes hopen hact hin (by omega) hpackets⟩
  rw [if_pos hmore]
  obtain ⟨data, hdata, hlen, hwf', hunread⟩ := taken hwf s._packetBuffer.GetRemainingSpace
  have hfits : got.length + data.length ≤ (ofBytes (c.DecryptRecv raw).2).size - 4 := by omega
  obtain ⟨m, hm, hfill⟩ := hin.payload.write hfits
  have hin' : InPayload { s with
      _packetBuffer := m
      _readBuffer := s._readBuffer.ReadCompleted
        (min s._readBuffer.GetActiveSize s._packetBuffer.GetRemainingSpace) } c raw (got ++ data) :=
    ⟨hin.length_raw, hin.valid, hin.crypt, hin.header, hfill⟩
  have hpackets' : ∀ rest, streamPackets peer (s.stream ++ rest) =
      packetsOf peer c s._authed s.packets (raw ++ (got ++ data) ++ ((s._readBuffer.ReadCompleted
          (min s._readBuffer.GetActiveSize s._packetBuffer.GetRemainingSpace)).unread ++ rest)) := by
    intro rest
    simp [hpackets rest, hunread]
  have hleft := hfill.getRemainingSpace
  rw [List.length_append] at hleft
  dsimp only
  rw [hdata, hm, Option.bind_some]
  by_cases hmore' : m.GetRemainingSpace > 0
  · rw [if_pos hmore', ReadingSocket.breakLoop, if_pos]
    · exact ⟨_, rfl, asyncRead hwf' hsizes hopen
        (.payload hin' (by rw [List.length_append]; omega)) hpackets'⟩
    · have hall := congrArg List.length hunread
      rw [List.length_append, ← hwf.getActiveSize, ← hwf'.getActiveSize] at hall
      dsimp only
      omega
  · rw [if_neg hmore']
    exact ⟨_, rfl, handlePacket hwf' hsizes hopen hact hin' (by rw [List.length_append]; omega)
      hpackets'⟩

/-- The header is read on, and if it is complete the payload is. -/
theorem readHeader (hsizes : ∀ p ∈ s.packets, p.payload.length + 4 = p.size) (hopen : s.isOpen = true)
    (hact : s.activity = .handling) (hin : InHeader s c bytes)
    (hpackets : ∀ rest, streamPackets peer (s.stream ++ rest) =
      packetsOf peer c s._authed s.packets (bytes ++ (s._readBuffer.unread ++ rest))) :
    ∃ s', s.readHeader peer = some s' ∧ OnCourse peer s' := by
  have hroom := hin.header.getRemainingSpace
  have hle := hin.header.length_le
  obtain ⟨data, hdata, hlen, hwf', hunread⟩ := taken hwf s._headerBuffer.GetRemainingSpace
  have hfits : bytes.length + data.length ≤ 6 := by omega
  obtain ⟨m, hm, hfill⟩ := hin.header.write hfits
  have hpackets' : ∀ rest, streamPackets peer (s.stream ++ rest) =
      packetsOf peer c s._authed s.packets (bytes ++ data ++ ((s._readBuffer.ReadCompleted
        (min s._readBuffer.GetActiveSize s._headerBuffer.GetRemainingSpace)).unread ++ rest)) := by
    intro rest
    simp [hpackets rest, hunread]
  have hleft := hfill.getRemainingSpace
  rw [List.length_append] at hleft
  rw [ReadingSocket.readHeader]
  dsimp only
  rw [hdata, hm, Option.bind_some]
  by_cases hmore : m.GetRemainingSpace > 0
  · have hshort : (bytes ++ data).length < 6 := by
      rw [List.length_append]
      omega
    rw [if_pos hmore, ReadingSocket.breakLoop, if_pos]
    · exact ⟨_, rfl, asyncRead hwf' hsizes hopen
        (.header ⟨hin.crypt, hfill, hin.wpos, hin.rpos⟩ hshort) hpackets'⟩
    · have hall := congrArg List.length hunread
      rw [List.length_append, ← hwf.getActiveSize, ← hwf'.getActiveSize] at hall
      dsimp only
      omega
  have hfull : (bytes ++ data).length = 6 := by
    rw [List.length_append]
    omega
  have hactive : m.GetActiveSize = 6 := by rw [hfill.wellFormed.getActiveSize, hfill.unread, hfull]
  have hraw : m.GetReadPointer.take 6 = bytes ++ data := by
    simp [hfill.getReadPointer hfull, ← hfull]
  rw [if_neg hmore, ReadingSocket.ReadHeaderHandler]
  dsimp only
  rw [if_pos hactive, hraw, hin.crypt]
  by_cases hbad : ¬ (ofBytes (c.DecryptRecv (bytes ++ data)).2).IsValidSize ∨
      ¬ (ofBytes (c.DecryptRecv (bytes ++ data)).2).IsValidOpcode
  · rw [if_pos hbad]
    refine ⟨_, rfl, hwf', hsizes, fun h ↦ Bool.noConfusion h, fun h ↦ Bool.noConfusion h, fun _ rest ↦ ?_⟩
    have hend := hpackets' rest
    rw [packetsOf_malformed (nextPacket_malformed hfull hbad)] at hend
    exact hend
  · have hvalid := not_or.mp hbad
    have hlen' : (withHostSize (c.DecryptRecv (bytes ++ data)).2
        ((ofBytes (c.DecryptRecv (bytes ++ data)).2).size - 4)).length = 6 := by
      simp [withHostSize, length_decryptRecv, hfull]
    rw [if_neg hbad, Option.bind_some]
    dsimp only
    rw [if_pos rfl]
    have hpayload := Filled.resize hin.wpos hin.rpos
      ((ofBytes (c.DecryptRecv (bytes ++ data)).2).size - 4)
    refine readPayload hwf' hsizes hopen hact ⟨hfull, ⟨not_not.mp hvalid.1, not_not.mp hvalid.2⟩, rfl,
      hfill.overwrite hfull hlen', hpayload⟩ fun rest ↦ ?_
    have hnext := hpackets' rest
    simpa using hnext

end

section

variable (h : OnCourse peer s) (hopen : s.isOpen = true)
include h hopen

/-- **A turn of the loop** keeps its assertions. -/
theorem readHandler (hact : s.activity = .handling) : ∃ s', s.readHandler peer = some s' ∧ OnCourse peer s' := by
  have hnot : s.activity ≠ .waitingForQuery := fun hwait ↦ ReadActivity.noConfusion (hact.symm.trans hwait)
  obtain ⟨c, bytes, hwithin, hpackets⟩ := h.within hopen hnot
  rw [ReadingSocket.readHandler]
  by_cases hactive : s._readBuffer.GetActiveSize > 0
  swap
  · rw [if_neg hactive]
    exact ⟨_, rfl, asyncRead h.wellFormed h.sizes hopen hwithin hpackets⟩
  rw [if_pos hactive]
  cases hwithin with
  | header hin hlt =>
    rw [if_pos (by rw [hin.header.getRemainingSpace]; omega)]
    exact readHeader h.wellFormed h.sizes hopen hact hin hpackets
  | payload hin hlt =>
    have hfull : s._headerBuffer.GetRemainingSpace = 0 := by
      simp [hin.header.getRemainingSpace, withHostSize, length_decryptRecv, hin.length_raw]
    rw [if_neg (by omega)]
    exact readPayload h.wellFormed h.sizes hopen hact hin hpackets

theorem received (hact : s.activity = .reading) (bytes : List UInt8) : OnCourse peer (s.received bytes) := by
  have hnot : s.activity ≠ .waitingForQuery := fun hwait ↦ ReadActivity.noConfusion (hact.symm.trans hwait)
  have hunread : (s.received bytes)._readBuffer.unread = s._readBuffer.unread ++ bytes :=
    h.wellFormed.unread_writeCompleted bytes
  refine ⟨h.wellFormed.writeCompleted bytes, h.sizes, fun _ _ ↦ ?_,
    fun _ hwait ↦ ReadActivity.noConfusion hwait, fun hclosed ↦ Bool.noConfusion (hopen.symm.trans hclosed)⟩
  obtain ⟨c, got, hwithin, hpackets⟩ := h.within hopen hnot
  have hwithin' : InPacket (s.received bytes) c got := by
    cases hwithin with
    | header h hlt => exact .header ⟨h.crypt, h.header, h.wpos, h.rpos⟩ hlt
    | payload h hlt => exact .payload ⟨h.length_raw, h.valid, h.crypt, h.header, h.payload⟩ hlt
  refine ⟨c, got, hwithin', fun rest ↦ ?_⟩
  have hnext := hpackets (bytes ++ rest)
  rw [← List.append_assoc, ← List.append_assoc s._readBuffer.unread, ← hunread] at hnext
  exact hnext

/-- The callback closes the connection, or goes on with what it was given. -/
theorem callback (hact : s.activity = .waitingForQuery) : OnCourse peer (s.HandleAuthSessionCallback peer) := by
  obtain ⟨hfresh, hpackets⟩ := h.waiting hopen hact
  rw [ReadingSocket.HandleAuthSessionCallback]
  cases hcall : peer.callback s.packets with
  | none =>
    refine ⟨h.wellFormed, h.sizes, fun h ↦ Bool.noConfusion h, fun h ↦ Bool.noConfusion h, fun _ rest ↦ ?_⟩
    simpa [packetsAfterQuery, hcall] using hpackets rest
  | some keys =>
    have hwithin : InPacket { s with _authCrypt := .Init keys.1 keys.2, _authed := true }
        (.Init keys.1 keys.2) [] :=
      .header ⟨rfl, hfresh.header, hfresh.wpos, hfresh.rpos⟩ (by decide)
    refine asyncRead (s := { s with _authCrypt := .Init keys.1 keys.2, _authed := true })
      h.wellFormed h.sizes hopen hwithin fun rest ↦ ?_
    have hnext := hpackets rest
    simpa [packetsAfterQuery, hcall] using hnext

end

theorem next (h : OnCourse peer s) {call : ReadingSocket.Call} (hn : s.next peer call = some s') :
    OnCourse peer s' := by
  cases call with
  | received bytes =>
    obtain ⟨⟨hopen, hact, _⟩, rfl⟩ := Option.ite_none_right_eq_some.mp hn |>.imp_right Option.some.inj
    exact h.received hopen hact bytes
  | readHandler =>
    obtain ⟨⟨hopen, hact⟩, hs⟩ := Option.ite_none_right_eq_some.mp hn
    obtain ⟨t, ht, hcourse⟩ := h.readHandler hopen hact
    obtain rfl := Option.some.inj (ht.symm.trans hs)
    exact hcourse
  | callback =>
    obtain ⟨⟨hopen, hact⟩, rfl⟩ := Option.ite_none_right_eq_some.mp hn |>.imp_right Option.some.inj
    exact h.callback hopen hact

/-- What has been handed on are the first packets of the stream. -/
theorem isPrefix (h : OnCourse peer s) (rest : List UInt8) : s.packets <+: streamPackets peer (s.stream ++ rest) := by
  cases hopen : s.isOpen with
  | false =>
    exact (h.closed hopen rest).symm ▸ List.prefix_refl s.packets
  | true =>
    by_cases hact : s.activity = .waitingForQuery
    · rw [(h.waiting hopen hact).2 rest, packetsAfterQuery]
      split
      · exact List.prefix_refl _
      · exact prefix_packetsOf _ _ _ _ _
    · obtain ⟨c, bytes, -, hpackets⟩ := h.within hopen hact
      rw [hpackets rest]
      exact prefix_packetsOf _ _ _ _ _

end OnCourse

theorem onCourse_of_reachable (h : (worldSocketInput peer).Reachable s) : OnCourse peer s :=
  h.invariant OnCourse.start fun _ _ _ hs _ hn ↦ hs.next hn

/-! ## All streams -/

/-- The loop keeps its assertions, every payload has the size that its header says, and the packets that are
handed on are the first ones of the stream. -/
def ReadsSoundly (peer : Peer) (s : ReadingSocket) : Prop :=
  (s.isOpen = true → s.activity = .handling → ∃ s', s.readHandler peer = some s') ∧
    (∀ p ∈ s.packets, p.payload.length + 4 = p.size) ∧ s.packets <+: streamPackets peer s.stream

/-- The connection is closed, or it has got all of the stream and is done with it. -/
def GotAll (stream : List UInt8) (s : ReadingSocket) : Prop :=
  s.isOpen = false ∨ (s.stream = stream ∧ s.activity = .reading)

/-- The connection is closed, or it has got all of the stream and nothing is left in the buffer. -/
def ReadAll (stream : List UInt8) (s : ReadingSocket) : Prop :=
  s.isOpen = false ∨ (s.stream = stream ∧ s.activity ≠ .handling ∧ s._readBuffer.unread = [])

theorem OnCourse.packets_eq (h : OnCourse peer s) {stream : List UInt8} (hpre : s.stream <+: stream)
    (hall : ReadAll stream s) : s.packets = streamPackets peer stream := by
  obtain ⟨rest, rfl⟩ := hpre
  cases hopen : s.isOpen with
  | false => exact (h.closed hopen rest).symm
  | true =>
    obtain ⟨hstream, -, hempty⟩ := hall.resolve_left (fun hclosed ↦ Bool.noConfusion (hopen.symm.trans hclosed))
    have hrest : rest = [] := List.append_right_eq_self.mp hstream.symm
    subst hrest
    by_cases hact : s.activity = .waitingForQuery
    · rw [(h.waiting hopen hact).2, hempty, packetsAfterQuery]
      split
      · rfl
      · exact (packetsOf_incomplete (nextPacket_short (by decide)) _ _).symm
    · obtain ⟨c, bytes, hwithin, hpackets⟩ := h.within hopen hact
      rw [hpackets, hempty, List.append_nil, List.append_nil, packetsOf_incomplete hwithin.incomplete]

/-- Two connections that have got the same stream. -/
def SamePackets (done : List UInt8 → ReadingSocket → Prop) (stream : List UInt8)
    (s₁ s₂ : ReadingSocket) : Prop :=
  s₁.stream <+: stream → s₂.stream <+: stream → (s₁.packets <+: s₂.packets ∨ s₂.packets <+: s₁.packets) ∧
      (done stream s₁ → done stream s₂ → s₁.packets = s₂.packets)

/-- **However a stream is cut, the same packets are handed on**: the first ones of the stream, and all of them
where nothing is left in the buffer.  The assertions hold, and payloads have the sizes they should. -/
theorem input_of_reaches (peer : Peer) :
    (∀ s, (worldSocketInput peer).Reachable s → ReadsSoundly peer s) ∧
      ∀ stream s₁ s₂, (worldSocketInput peer).Reachable s₁ → (worldSocketInput peer).Reachable s₂ →
        SamePackets ReadAll stream s₁ s₂ := by
  refine ⟨fun s h ↦ ?_, fun stream s₁ s₂ h₁ h₂ hs₁ hs₂ ↦ ⟨?_, fun hall₁ hall₂ ↦ ?_⟩⟩
  · have hcourse := onCourse_of_reachable h
    refine ⟨fun hopen hact ↦ ?_, hcourse.sizes, ?_⟩
    · obtain ⟨s', hs', -⟩ := hcourse.readHandler hopen hact
      exact ⟨s', hs'⟩
    · have hpre := hcourse.isPrefix []
      simpa using hpre
  · obtain ⟨rest₁, rfl⟩ := hs₁
    obtain ⟨rest₂, heq⟩ := hs₂
    have hpre₁ := (onCourse_of_reachable h₁).isPrefix rest₁
    have hpre₂ := (onCourse_of_reachable h₂).isPrefix rest₂
    rw [heq] at hpre₂
    exact List.prefix_or_prefix_of_prefix hpre₁ hpre₂
  · rw [(onCourse_of_reachable h₁).packets_eq hs₁ hall₁, (onCourse_of_reachable h₂).packets_eq hs₂ hall₂]

/-- A server that takes `CMSG_AUTH_SESSION` if it is long enough, with keystreams of nothing but zeros. -/
def plainPeer : Peer where
  overSpeed := fun _ ↦ false
  readable := fun payload ↦ decide (57 < payload.length)
  callback := fun _ ↦ some (fun _ ↦ 0, fun _ ↦ 0)

/-- `CMSG_AUTH_SESSION` with as many bytes as it needs, and `CMSG_KEEP_ALIVE`, which has none. -/
def authSessionBytes : List UInt8 := [0, 62, 0xED, 0x01, 0, 0] ++ List.replicate 58 0
def keepAliveBytes : List UInt8 := [0, 4, 0x07, 0x04, 0, 0]

/-- The two packets apart, and with each of them cut in two. -/
def apartRun : List ReadingSocket.Call := [.received authSessionBytes, .readHandler, .callback,
   .received keepAliveBytes, .readHandler, .readHandler]

def smallPiecesRun : List ReadingSocket.Call := [.received (authSessionBytes.take 3), .readHandler,
   .received (authSessionBytes.drop 3), .readHandler, .callback,
   .received (keepAliveBytes.take 1), .readHandler,
   .received (keepAliveBytes.drop 1), .readHandler, .readHandler]

instance (stream : List UInt8) (s : ReadingSocket) : Decidable (ReadAll stream s) := inferInstanceAs (Decidable (_ ∨ _))

instance (stream : List UInt8) (s : ReadingSocket) : Decidable (GotAll stream s) := inferInstanceAs (Decidable (_ ∨ _))

theorem input_of_reaches_pieces : ∃ s₁ s₂ : ReadingSocket, s₁.packets = s₂.packets ∧
    s₁.packets.map ClientPacket.opcode = [CMSG_AUTH_SESSION, CMSG_KEEP_ALIVE] := by
  obtain ⟨s₁, hs₁, hstream₁, hall₁, hopcodes⟩ := (worldSocketInput plainPeer).exists_reachable apartRun
    (fun s ↦ s.stream = authSessionBytes ++ keepAliveBytes ∧ ReadAll (authSessionBytes ++ keepAliveBytes) s ∧
      s.packets.map ClientPacket.opcode = [CMSG_AUTH_SESSION, CMSG_KEEP_ALIVE]) (by decide +kernel)
  obtain ⟨s₂, hs₂, hstream₂, hall₂⟩ := (worldSocketInput plainPeer).exists_reachable smallPiecesRun
    (fun s ↦ s.stream = authSessionBytes ++ keepAliveBytes ∧
      ReadAll (authSessionBytes ++ keepAliveBytes) s) (by decide +kernel)
  have hsame := (input_of_reaches plainPeer).2 (authSessionBytes ++ keepAliveBytes) s₁ s₂ hs₁ hs₂
    (hstream₁ ▸ List.prefix_refl _) (hstream₂ ▸ List.prefix_refl _)
  exact ⟨s₁, s₂, hsame.2 hall₁ hall₂, hopcodes⟩

/-- The two packets in one piece. -/
def togetherRun : List ReadingSocket.Call := [.received (authSessionBytes ++ keepAliveBytes), .readHandler, .callback]

/-- A packet that comes together with `CMSG_AUTH_SESSION` is not read when the query has been answered. -/
theorem not_samePackets_gotAll : ¬ ∀ peer stream s₁ s₂, (worldSocketInput peer).Reachable s₁ →
    (worldSocketInput peer).Reachable s₂ → SamePackets GotAll stream s₁ s₂ := by
  intro hall
  obtain ⟨s₁, hs₁, hstream₁, hall₁, hlen₁⟩ := (worldSocketInput plainPeer).exists_reachable apartRun
    (fun s ↦ s.stream = authSessionBytes ++ keepAliveBytes ∧ GotAll (authSessionBytes ++ keepAliveBytes) s ∧
      s.packets.length = 2) (by decide +kernel)
  obtain ⟨s₂, hs₂, hstream₂, hall₂, hlen₂⟩ := (worldSocketInput plainPeer).exists_reachable togetherRun
    (fun s ↦ s.stream = authSessionBytes ++ keepAliveBytes ∧ GotAll (authSessionBytes ++ keepAliveBytes) s ∧
      s.packets.length = 1) (by decide +kernel)
  have hsame := (hall plainPeer (authSessionBytes ++ keepAliveBytes) s₁ s₂ hs₁ hs₂
    (hstream₁ ▸ List.prefix_refl _) (hstream₂ ▸ List.prefix_refl _)).2 hall₁ hall₂
  simp [hsame, hlen₂] at hlen₁

end Gundrak
