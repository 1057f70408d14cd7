import Gundrak.Server.ByteBuffer
import Gundrak.Server.ReadHandler

/-!
# Packets from clients that are not authenticated

Before a client is authenticated, `ReadDataHandler` has three kinds of packets to handle: `CMSG_PING`,
`CMSG_AUTH_SESSION` and `CMSG_KEEP_ALIVE`; any other closes the connection.  Whatever is missing in a packet
throws a `ByteBufferException`, which is caught and closes the connection too.

`HandleAuthSession` also appends: the rest of the packet becomes the `AddonInfo`.  If nothing is left behind the
digest, it appends nothing, and that violates an `ASSERT` of `ByteBuffer::append`.  No real client sends such a
packet, but anyone can.

**`serve_isSome_iff`** says that this is the only way to end the server before authentication.
-/

namespace Gundrak

namespace WorldSocket

/-! ## The source -/

/-- What `HandleAuthSession` reads: the `AuthSession` of the world server. -/
structure AuthSession where
  BattlegroupID : ℕ
  LoginServerType : ℕ
  RealmID : ℕ
  Build : ℕ
  LocalChallenge : ℕ
  LoginServerID : ℕ
  RegionID : ℕ
  DosResponse : ℕ
  Digest : List UInt8
  Account : List UInt8
  AddonInfo : ByteBuffer

/-- `HandleAuthSession`, up to the query for the account. -/
def HandleAuthSession (recvPacket : ByteBuffer) : Except Failure AuthSession := do
  let (Build, recvPacket) ← recvPacket.readNumber 4
  let (LoginServerID, recvPacket) ← recvPacket.readNumber 4
  let (Account, recvPacket) := recvPacket.readString
  let (LoginServerType, recvPacket) ← recvPacket.readNumber 4
  let (LocalChallenge, recvPacket) ← recvPacket.readNumber 4
  let (RegionID, recvPacket) ← recvPacket.readNumber 4
  let (BattlegroupID, recvPacket) ← recvPacket.readNumber 4
  let (RealmID, recvPacket) ← recvPacket.readNumber 4
  let (DosResponse, recvPacket) ← recvPacket.readNumber 8
  let (Digest, recvPacket) ← recvPacket.readBytes 20
  let contents ← recvPacket.contents
  let AddonInfo ← (ByteBuffer.written []).append (contents.drop recvPacket._rpos)
  return ⟨BattlegroupID, LoginServerType, RealmID, Build, LocalChallenge, LoginServerID, RegionID, DosResponse,
    Digest, Account, AddonInfo⟩

/-- `HandlePing`.  `overSpeed` says whether there have been too many pings for a player without the permission;
the answer repeats the number of the ping. -/
def HandlePing (_worldSession overSpeed : Bool) (recvPacket : ByteBuffer) : Except Failure Bool := do
  let (ping, recvPacket) ← recvPacket.readNumber 4
  let (_, _) ← recvPacket.readNumber 4
  if _worldSession && overSpeed then return false
  else if _worldSession then
    let _ ← (ByteBuffer.written []).appendNumber 4 ping
    return true
  else return false

/-- The `try` of `ReadDataHandler`: an exception is caught, but an `ASSERT` ends the server. -/
def caught : Except Failure ReadDataHandlerResult → Option ReadDataHandlerResult
  | .ok result => some result
  | .error (.exception _) => some .Error
  | .error .assertion => none

/-- `ReadDataHandler`.  There is a `_worldSession` from the moment on where the connection is `_authed`. -/
def ReadDataHandler (_authed overSpeed : Bool) (packet : ClientPacket) : Option ReadDataHandlerResult :=
  let recvPacket := ByteBuffer.ofBytes packet.payload
  if packet.opcode = CMSG_PING then
    caught (do
      let ok ← HandlePing _authed overSpeed recvPacket
      return if ok then .Ok else .Error)
  else if packet.opcode = CMSG_AUTH_SESSION then
    if _authed then some .Error
    else
      caught (do
        let _ ← HandleAuthSession recvPacket
        return .WaitingForQuery)
  else if packet.opcode = CMSG_KEEP_ALIVE then some .Ok
  else if _authed then some .Ok
  else some .Error

/-- The packets of a client that is not authenticated are handled, one after the other.  The connection is closed
at an error, and nothing more is read while the query for the account runs. -/
def serve : List ClientPacket → Option (List ReadDataHandlerResult)
  | [] => some []
  | packet :: packets => do
    let result ← ReadDataHandler false false packet
    if result = .Ok then
      let results ← serve packets
      return result :: results
    else return [result]

/-! ## Packets that end with the digest -/

/-- Nothing is left behind the digest: there are two numbers, the name of the account with the zero that ends it,
and the 48 bytes that come next. -/
def EndsAtDigest (payload : List UInt8) : Prop :=
  ∃ head account tail, payload = head ++ account ++ 0 :: tail ∧ head.length = 8 ∧ (∀ c ∈ account, c ≠ 0) ∧
    tail.length = 48

variable {packet : ClientPacket} {packets : List ClientPacket} {payload : List UInt8}

open ByteBuffer

theorem addonInfo_iff {recvPacket : ByteBuffer} {f : ByteBuffer → AuthSession} (hne : recvPacket._storage ≠ []) :
    (recvPacket.contents >>= fun contents ↦
      (ByteBuffer.written []).append (contents.drop recvPacket._rpos) >>= fun AddonInfo ↦ pure (f AddonInfo)) =
        .error .assertion ↔ recvPacket.left = [] := by
  have hcontents : recvPacket.contents = .ok recvPacket._storage := by rw [contents, if_neg hne]
  have hsize : ([] : List UInt8).length < 10000000 := by decide
  rw [hcontents]
  rcases eq_or_ne recvPacket.left [] with hnil | hleft
  · refine iff_of_true ?_ hnil
    change (ByteBuffer.written []).append recvPacket.left >>= _ = _
    rw [hnil]
    rfl
  · have happend := append_written hleft hsize
    refine iff_of_false (fun h ↦ ?_) hleft
    change (ByteBuffer.written []).append recvPacket.left >>= _ = _ at h
    simp [happend] at h

theorem endsAtDigest_iff : EndsAtDigest payload ↔
    8 ≤ payload.length ∧ ((payload.drop 8).drop (readChars (payload.drop 8)).2).length = 48 := by
  rw [length_drop_readChars_iff (by decide)]
  constructor
  · rintro ⟨head, account, tail, rfl, hhead, haccount, htail⟩
    refine ⟨?_, account, tail, ?_, haccount, htail⟩
    · rw [List.length_append, List.length_append]
      omega
    · rw [List.append_assoc, List.drop_left' hhead]
  · rintro ⟨hlength, account, tail, hrest, haccount, htail⟩
    refine ⟨payload.take 8, account, tail, ?_, ?_, haccount, htail⟩
    · simp [← hrest]
    · rw [List.length_take, min_eq_left hlength]

theorem handleAuthSession_iff :
    HandleAuthSession (ByteBuffer.ofBytes payload) = .error .assertion ↔ EndsAtDigest payload := by
  have hpos4 : 0 < 4 := by decide
  have hpos8 : 0 < 8 := by decide
  have hpos20 : 0 < 20 := by decide
  rw [HandleAuthSession, readNumber_bind_iff hpos4]
  rw [readNumber_bind_iff hpos4]
  rw [readNumber_bind_iff hpos4]
  rw [readNumber_bind_iff hpos4]
  rw [readNumber_bind_iff hpos4]
  rw [readNumber_bind_iff hpos4]
  rw [readNumber_bind_iff hpos4]
  rw [readNumber_bind_iff hpos8]
  rw [readBytes_bind_iff hpos20]
  rcases eq_or_ne payload [] with rfl | hne
  · refine iff_of_false (fun h ↦ absurd h.1 (by decide)) fun h ↦ ?_
    exact absurd (endsAtDigest_iff.mp h).1 (by decide)
  rw [addonInfo_iff hne, endsAtDigest_iff, ← List.length_eq_zero_iff]
  simp only [left_skip, left_readString, left_ofBytes, List.length_drop, List.drop_drop, Nat.reduceAdd]
  generalize (readChars (payload.drop 8)).2 = read
  omega

section

variable (_worldSession overSpeed : Bool)

theorem handlePing_of_le (h : 8 ≤ payload.length) :
    HandlePing _worldSession overSpeed (ByteBuffer.ofBytes payload) = .ok (_worldSession && !overSpeed) := by
  have hpos : 0 < 4 := by decide
  have hfirst : 4 ≤ payload.length := by omega
  have hsecond : 4 ≤ (payload.drop 4).length := by
    rw [List.length_drop]
    omega
  rw [HandlePing, readNumber_eq hpos, left_ofBytes, if_pos hfirst]
  change ((ByteBuffer.ofBytes payload).skip 4).readNumber 4 >>= _ = _
  rw [readNumber_eq hpos, left_skip, left_ofBytes, if_pos hsecond]
  have hpong : LittleEndian.bytes 4 (LittleEndian.value (payload.take 4)) ≠ [] := List.cons_ne_nil _ _
  have hsize : ([] : List UInt8).length < 10000000 := by decide
  cases _worldSession with
  | false => rfl
  | true =>
    cases overSpeed with
    | true => rfl
    | false =>
      change ((ByteBuffer.written []).appendNumber 4 (LittleEndian.value (payload.take 4)) >>=
        fun _ ↦ (pure true : Except Failure Bool)) = _
      rw [appendNumber, append_written hpong hsize]
      rfl

theorem handlePing_of_lt (h : payload.length < 8) :
    ∃ e, HandlePing _worldSession overSpeed (ByteBuffer.ofBytes payload) = .error (.exception e) := by
  have hpos : 0 < 4 := by decide
  rw [HandlePing, readNumber_eq hpos, left_ofBytes]
  split
  · have hsecond : ¬ 4 ≤ (payload.drop 4).length := by
      rw [List.length_drop]
      omega
    change ∃ e, ((ByteBuffer.ofBytes payload).skip 4).readNumber 4 >>= _ = _
    rw [readNumber_eq hpos, left_skip, left_ofBytes, if_neg hsecond]
    exact ⟨_, rfl⟩
  · exact ⟨_, rfl⟩

theorem caught_handlePing (payload : List UInt8) :
    caught (HandlePing _worldSession overSpeed (ByteBuffer.ofBytes payload) >>= fun ok ↦
      pure (if ok then .Ok else .Error)) =
      some (if 8 ≤ payload.length ∧ _worldSession = true ∧ ¬ overSpeed = true then .Ok else .Error) := by
  rcases le_or_gt 8 payload.length with hle | hlt
  · rw [handlePing_of_le _worldSession overSpeed hle]
    cases _worldSession <;> cases overSpeed <;> simp [hle, caught, pure, Except.pure, bind, Except.bind]
  · obtain ⟨e, he⟩ := handlePing_of_lt _worldSession overSpeed hlt
    rw [he, if_neg fun h ↦ hlt.not_ge h.1]
    rfl

end

theorem caught_eq_none {handled : Except Failure ReadDataHandlerResult} :
    caught handled = none ↔ handled = .error .assertion := by
  rcases handled with (_ | _) | result
  · exact iff_of_false (fun h ↦ by cases h) fun h ↦ by cases h
  · exact iff_of_true rfl rfl
  · exact iff_of_false (fun h ↦ by cases h) fun h ↦ by cases h

/-- What is only made of a result does not violate an `ASSERT` by itself. -/
theorem bind_pure_eq_assertion {α β : Type} {x : Except Failure α} {f : α → β} :
    (x >>= fun a ↦ pure (f a)) = (.error .assertion : Except Failure β) ↔ x = .error .assertion := by
  cases x with
  | error failure => exact ⟨fun h ↦ congrArg _ (Except.error.inj h), fun h ↦ congrArg _ (Except.error.inj h)⟩
  | ok a => exact iff_of_false (fun h ↦ by cases h) fun h ↦ by cases h

/-! ## Sequences of packets -/

/-- **A packet of a client that is not authenticated** violates an `ASSERT` exactly if it is an
`CMSG_AUTH_SESSION` that ends with the digest. -/
theorem readDataHandler_eq_none : ReadDataHandler false false packet = none ↔
    packet.opcode = CMSG_AUTH_SESSION ∧ EndsAtDigest packet.payload := by
  have hping : CMSG_AUTH_SESSION ≠ CMSG_PING := by decide
  have halive : CMSG_KEEP_ALIVE ≠ CMSG_AUTH_SESSION := by decide
  rw [ReadDataHandler]
  split
  · rename_i hop
    rw [caught_handlePing]
    exact iff_of_false (Option.some_ne_none _) fun h ↦ hping (h.1.symm.trans hop)
  · split
    · rename_i hop
      rw [if_neg Bool.false_ne_true, caught_eq_none, bind_pure_eq_assertion, handleAuthSession_iff]
      exact (and_iff_right hop).symm
    · rename_i hop
      refine iff_of_false (fun h ↦ ?_) fun h ↦ hop h.1
      split at h <;> cases h

theorem caught_eq_some {handled : Except Failure ReadDataHandlerResult} :
    caught handled = some .Ok ↔ handled = .ok .Ok := by
  rcases handled with (_ | _) | result
  · exact iff_of_false (fun h ↦ by cases h) fun h ↦ by cases h
  · exact iff_of_false (fun h ↦ by cases h) fun h ↦ by cases h
  · simp [caught, Except.ok.injEq]

/-- Only the packets that keep a connection alive let it read on. -/
theorem readDataHandler_eq_ok : ReadDataHandler false false packet = some .Ok ↔ packet.opcode = CMSG_KEEP_ALIVE := by
  have hping : CMSG_KEEP_ALIVE ≠ CMSG_PING := by decide
  have hauth : CMSG_KEEP_ALIVE ≠ CMSG_AUTH_SESSION := by decide
  rw [ReadDataHandler]
  split
  · rename_i hop
    refine iff_of_false (fun h ↦ ?_) fun h ↦ hping (h.symm.trans hop)
    rw [caught_handlePing, if_neg fun h ↦ Bool.false_ne_true h.2.1] at h
    cases h
  · split
    · rename_i hop
      refine iff_of_false (fun h ↦ ?_) fun h ↦ hauth (h.symm.trans hop)
      rw [if_neg Bool.false_ne_true, caught_eq_some] at h
      cases hok : HandleAuthSession (ByteBuffer.ofBytes packet.payload) with
      | error failure => rw [hok] at h; cases h
      | ok authSession => rw [hok] at h; cases h
    · split
      · rename_i hop
        exact iff_of_true rfl hop
      · rename_i hop
        exact iff_of_false (fun h ↦ by cases h) hop

/-- **No client that is not authenticated ends the server**, unless it sends an `CMSG_AUTH_SESSION` that ends with
the digest, first or behind packets that keep the connection alive. -/
theorem serve_isSome_iff (packets : List ClientPacket) : (serve packets).isSome = true ↔
    ¬ ∃ before packet after, packets = before ++ packet :: after ∧ (∀ p ∈ before, p.opcode = CMSG_KEEP_ALIVE) ∧
      packet.opcode = CMSG_AUTH_SESSION ∧ EndsAtDigest packet.payload := by
  induction packets with
  | nil =>
    refine iff_of_true rfl ?_
    rintro ⟨before, packet, after, h, -⟩
    exact List.append_ne_nil_of_right_ne_nil before (List.cons_ne_nil _ _) h.symm
  | cons p packets ih =>
    rw [serve]
    cases hresult : ReadDataHandler false false p with
    | none =>
      obtain ⟨hop, hends⟩ := readDataHandler_eq_none.mp hresult
      refine iff_of_false (fun h ↦ by cases h) (not_not.mpr ?_)
      exact ⟨[], p, packets, rfl, fun q hq ↦ absurd hq List.not_mem_nil, hop, hends⟩
    | some result =>
      have hhandled : ¬ (p.opcode = CMSG_AUTH_SESSION ∧ EndsAtDigest p.payload) := by
        rw [← readDataHandler_eq_none, hresult]
        exact Option.some_ne_none result
      rw [Option.bind_eq_bind, Option.bind_some]
      rcases eq_or_ne result .Ok with rfl | hne
      · have halive := readDataHandler_eq_ok.mp hresult
        have hrest : (serve packets >>= fun results ↦ pure (ReadDataHandlerResult.Ok :: results)).isSome =
            (serve packets).isSome := by
          cases serve packets <;> rfl
        rw [if_pos rfl, hrest, ih, not_iff_not]
        constructor
        · rintro ⟨before, packet, after, rfl, hbefore, hbad⟩
          exact ⟨p :: before, packet, after, rfl, List.forall_mem_cons.mpr ⟨halive, hbefore⟩, hbad⟩
        · rintro ⟨before, packet, after, h, hbefore, hbad⟩
          cases before with
          | nil =>
            rw [List.nil_append, List.cons.injEq] at h
            exact absurd (h.1.symm ▸ hbad) hhandled
          | cons q before =>
            rw [List.cons_append, List.cons.injEq] at h
            exact ⟨before, packet, after, h.2, fun p hp ↦ hbefore p (List.mem_cons_of_mem _ hp), hbad⟩
      · rw [if_neg hne]
        refine iff_of_true rfl ?_
        rintro ⟨before, packet, after, h, hbefore, hbad⟩
        cases before with
        | nil =>
          rw [List.nil_append, List.cons.injEq] at h
          exact hhandled (h.1.symm ▸ hbad)
        | cons q before =>
          rw [List.cons_append, List.cons.injEq] at h
          have hq := readDataHandler_eq_ok.mpr (hbefore q List.mem_cons_self)
          rw [← h.1, hresult, Option.some_inj] at hq
          exact hne hq

/-- The header of a packet is accepted. -/
def ValidHeader (packet : ClientPacket) : Prop := (⟨packet.size, packet.opcode⟩ : ClientPktHeader).IsValidSize ∧
    (⟨packet.size, packet.opcode⟩ : ClientPktHeader).IsValidOpcode ∧ packet.payload.length = packet.size - 4

/-- A `CMSG_AUTH_SESSION` for an account without a name, and without addons. -/
def noAddons : ClientPacket := ⟨61, CMSG_AUTH_SESSION, List.replicate 57 0⟩

/-- That packet ends the server. -/
theorem not_serve_noAddons : ¬ ∀ packets, (∀ packet ∈ packets, ValidHeader packet) →
    (serve packets).isSome = true := by
  intro h
  have hvalid : ∀ packet ∈ [noAddons], ValidHeader packet := by
    rw [List.forall_mem_singleton]
    exact ⟨by decide, by decide, by decide⟩
  have hends : EndsAtDigest noAddons.payload :=
    ⟨List.replicate 8 0, [], List.replicate 48 0, by decide, by decide, fun c hc ↦ absurd hc List.not_mem_nil,
      by decide⟩
  have hserved := h [noAddons] hvalid
  simp [serve, readDataHandler_eq_none.mpr ⟨rfl, hends⟩] at hserved

end WorldSocket

end Gundrak
