import Gundrak.Auth.Authentication

/-!
# What a session makes of its input

Bytes come in pieces of any size, and a message is handled once it is in the buffer.  How long it is is
in a table, and for a challenge in the message; `ReadHandler` waits until it is there.  It does not wait
for the token of a logon proof, which is behind the fixed part and which `HandleLogonProof` reads and
takes from the buffer itself.

`TokenReceived` asks that the token has come in when the handler reads it.  Then the positions of the
buffer stay in order, all bytes that come in are used once and in their order, and what is done with a
message depends on its own bytes (`ReadsReceived`).

To compare two ways to cut a stream, `Ideal` gets all of it at once and lets every callback finish before
it looks at the next message.  A connection that keeps to `Orderly` follows it: callbacks finish between
messages, and there is no byte at which a message should begin and which is no command, since
`ReadHandler` drops with such a byte whatever happens to be in the buffer behind it.

**`input_handled_of_reaches`** says both.
-/

namespace Gundrak

variable {crypto : Crypto} {ip : Bytes} {session : AuthSession} {bytes xs ys : Bytes}
  {c c' : Connection} {cmd : AuthCmd} {size : ℕ}

/-! ## Messages and what is behind them -/

theorem byteAt_append {i : ℕ} (h : i < xs.length) : byteAt (xs ++ ys) i = byteAt xs i := by
  simp only [byteAt, List.getD_eq_getElem?_getD, List.getElem?_append_left h]

theorem uint16At_append {i : ℕ} (h : i + 1 < xs.length) : uint16At (xs ++ ys) i = uint16At xs i := by
  rw [uint16At, uint16At, byteAt_append h, byteAt_append (Nat.lt_of_succ_lt h)]

theorem slice_append {i n : ℕ} (h : i + n ≤ xs.length) : slice (xs ++ ys) i n = slice xs i n := by
  rw [slice, slice, List.drop_append_of_le_length (by omega), List.take_append_of_le_length]
  rw [List.length_drop]
  omega

theorem uint16At_lt (bytes : Bytes) (i : ℕ) : uint16At bytes i < 2 ^ 16 := by
  have h0 := (byteAt bytes i).toNat_lt
  have h1 := (byteAt bytes (i + 1)).toNat_lt
  rw [uint16At]
  omega

theorem messageSize_append (h : cmd.packetSize ≤ xs.length) : messageSize cmd (xs ++ ys) = messageSize cmd xs := by
  rw [messageSize, messageSize]
  split
  · rename_i hch
    have h4 : cmd.packetSize = 4 := by cases cmd <;> first | rfl | cases hch
    rw [uint16At_append (by omega)]
  · rfl

/-- The tests do not look behind the bytes that are there. -/
theorem dispatch_append (status : AuthStatus) (xs ys : Bytes) :
    dispatch status xs.length (xs ++ ys) = dispatch status xs.length xs := by
  rw [dispatch, dispatch]
  by_cases h0 : xs.length = 0
  · simp [h0]
  rw [if_neg h0, if_neg h0, byteAt_append (Nat.pos_of_ne_zero h0)]
  cases Handlers (byteAt xs 0) with
  | none => rfl
  | some cmd =>
    dsimp only
    by_cases hpacket : xs.length < cmd.packetSize
    · simp [hpacket]
    · rw [messageSize_append (Nat.not_lt.mp hpacket)]

/-- What the tests come to is not changed by more bytes, unless they ask for more. -/
theorem dispatch_of_le {status : AuthStatus} {n m : ℕ} (hnm : n ≤ m) (h : dispatch status n bytes ≠ .wait) :
    dispatch status m bytes = dispatch status n bytes := by
  rw [dispatch] at h
  rw [dispatch, dispatch]
  by_cases h0 : n = 0
  · exact absurd (if_pos h0) h
  rw [if_neg h0] at h
  rw [if_neg h0, if_neg (by omega)]
  cases hcmd : Handlers (byteAt bytes 0) with
  | none => rfl
  | some cmd =>
    rw [hcmd] at h
    dsimp only at h ⊢
    by_cases hst : status ≠ cmd.status
    · simp [hst]
    rw [if_neg hst] at h
    rw [if_neg hst, if_neg hst]
    by_cases hpacket : n < cmd.packetSize
    · exact absurd (if_pos hpacket) h
    rw [if_neg hpacket] at h
    rw [if_neg hpacket, if_neg (by omega)]
    split
    · rfl
    · rename_i hmax
      rw [if_neg hmax] at h
      by_cases hsize : n < messageSize cmd bytes
      · exact absurd (if_pos hsize) h
      · rw [if_neg hsize, if_neg (by omega)]

/-- The tests on what has come in, once they do not ask for more, are those on all of a stream. -/
theorem dispatch_stream (status : AuthStatus) (h : dispatch status xs.length xs ≠ .wait) :
    dispatch status (xs ++ ys).length (xs ++ ys) = dispatch status xs.length xs := by
  rw [← dispatch_append status xs ys] at h ⊢
  exact dispatch_of_le (by rw [List.length_append]; omega) h

/-! ## The handlers and what is behind their message -/

variable (crypto) in
/-- A logon proof that has the right `M`, and a token behind it. -/
def ExpectsToken (session : AuthSession) (bytes : Bytes) : Prop :=
  session._expversion ≠ 0 ∧ crypto.isZeroModN (slice bytes 1 32) = false ∧
    crypto.proof session._accountInfo.Login session.s (slice bytes 1 32) session.B
      (crypto.sessionKey (slice bytes 1 32) session.v session.b session.B) = slice bytes 33 20 ∧
    (byteAt bytes 74 &&& 0x04 ≠ 0 ∨ session._tokenKey ≠ [])

instance : Decidable (ExpectsToken crypto session bytes) := inferInstanceAs (Decidable (_ ∧ _))

theorem read_checkToken : (session.checkToken crypto bytes).read =
    if byteAt bytes 74 &&& 0x04 ≠ 0 ∨ session._tokenKey ≠ [] then 1 + (byteAt bytes 75).toNat
    else 0 := by
  rw [AuthSession.checkToken]
  split
  · dsimp only
    split <;> rfl
  · rfl

/-- A logon proof takes a token from the buffer if it expects one. -/
theorem read_handleLogonProof : (session.HandleLogonProof crypto bytes).read =
      if ExpectsToken crypto session bytes then 1 + (byteAt bytes 75).toNat else 0 := by
  rw [AuthSession.HandleLogonProof]
  by_cases hexp : session._expversion = 0
  · rw [if_pos hexp, if_neg fun h ↦ h.1 hexp]
  rw [if_neg hexp]
  by_cases hA : crypto.isZeroModN (slice bytes 1 32) = true
  · rw [if_pos hA, if_neg fun h ↦ Bool.eq_false_iff.mp h.2.1 hA]
  rw [if_neg hA]
  by_cases hM : crypto.proof session._accountInfo.Login session.s (slice bytes 1 32) session.B
      (crypto.sessionKey (slice bytes 1 32) session.v session.b session.B) = slice bytes 33 20
  · rw [if_pos hM, read_checkToken]
    by_cases htoken : byteAt bytes 74 &&& 0x04 ≠ 0 ∨ session._tokenKey ≠ []
    · have hall : ExpectsToken crypto session bytes := ⟨hexp, Bool.eq_false_iff.mpr hA, hM, htoken⟩
      simp [htoken, hall]
    · rw [if_neg htoken, if_neg fun h ↦ htoken h.2.2.2]
  · rw [if_neg hM, if_neg fun h ↦ hM h.2.2.1]

theorem read_handle (cmd : AuthCmd) : (session.handle crypto bytes cmd).read =
    if cmd = .AUTH_LOGON_PROOF ∧ ExpectsToken crypto session bytes then
      1 + (byteAt bytes 75).toNat
    else 0 := by
  cases cmd with
  | AUTH_LOGON_PROOF =>
    simp only [true_and]
    exact read_handleLogonProof
  | AUTH_LOGON_CHALLENGE =>
    rw [if_neg (by simp), AuthSession.handle, AuthSession.HandleLogonChallenge, AuthSession.handleChallenge]
    split <;> rfl
  | AUTH_RECONNECT_CHALLENGE =>
    rw [if_neg (by simp), AuthSession.handle, AuthSession.HandleReconnectChallenge, AuthSession.handleChallenge]
    split <;> rfl
  | AUTH_RECONNECT_PROOF =>
    rw [if_neg (by simp), AuthSession.handle, AuthSession.HandleReconnectProof]
    split
    · rfl
    · dsimp only
      split <;> rfl
  | REALM_LIST => rfl

theorem expectsToken_append (h : 75 ≤ xs.length) :
    ExpectsToken crypto session (xs ++ ys) ↔ ExpectsToken crypto session xs := by
  rw [ExpectsToken, ExpectsToken, slice_append (by omega), slice_append (by omega), byteAt_append (by omega)]

/-- A challenge of which the size field and the name agree has its name within its size; one of which
they do not is refused. -/
theorem handleChallenge_append (query : Bytes → Query) (h4 : 4 ≤ xs.length)
    (hsize : (4 + uint16At xs 2) % 2 ^ 16 ≤ xs.length) :
    session.handleChallenge (xs ++ ys) query = session.handleChallenge xs query := by
  have hlt := uint16At_lt xs 2
  have hI := (byteAt xs 33).toNat_lt
  have hI' := (byteAt (xs ++ ys) 33).toNat_lt
  rw [AuthSession.handleChallenge, AuthSession.handleChallenge, uint16At_append (by omega)]
  by_cases hin : 30 ≤ uint16At xs 2 ∧ 4 + uint16At xs 2 < 2 ^ 16
  · rw [Nat.mod_eq_of_lt hin.2] at hsize
    rw [byteAt_append (by omega), uint16At_append (by omega)]
    split
    · rfl
    · rename_i heq
      have heq := not_not.mp heq
      rw [sizeSub, if_pos hin.1] at heq
      rw [slice_append (by omega)]
  · have hne : ∀ I : ℕ, I < 2 ^ 8 → sizeSub (uint16At xs 2) 30 ≠ I := by
      intro I hI
      rw [sizeSub]
      split <;> omega
    simp [(hne _ hI'), (hne _ hI)]

theorem checkToken_append (h75 : 75 ≤ xs.length) (htoken : byteAt xs 74 &&& 0x04 ≠ 0 ∨ session._tokenKey ≠ [] →
      76 + (byteAt xs 75).toNat ≤ xs.length) :
    session.checkToken crypto (xs ++ ys) = session.checkToken crypto xs := by
  rw [AuthSession.checkToken, AuthSession.checkToken, byteAt_append (by omega)]
  by_cases hflag : byteAt xs 74 &&& 0x04 ≠ 0 ∨ session._tokenKey ≠ []
  · have hall := htoken hflag
    rw [if_pos hflag, if_pos hflag, byteAt_append (by omega)]
    simp [slice_append (by omega)]
  · simp [hflag]

/-- **A handler does with a message what it does with the bytes of the message alone.** -/
theorem handle_append (hpacket : cmd.packetSize ≤ xs.length) (hsize : messageSize cmd xs ≤ xs.length)
    (htoken : cmd = .AUTH_LOGON_PROOF → ExpectsToken crypto session xs → 76 + (byteAt xs 75).toNat ≤ xs.length) :
    session.handle crypto (xs ++ ys) cmd = session.handle crypto xs cmd := by
  cases cmd with
  | AUTH_LOGON_CHALLENGE => exact handleChallenge_append _ hpacket hsize
  | AUTH_RECONNECT_CHALLENGE => exact handleChallenge_append _ hpacket hsize
  | AUTH_LOGON_PROOF =>
    have hlen : 75 ≤ xs.length := hpacket
    rw [AuthSession.handle, AuthSession.handle, AuthSession.HandleLogonProof,
      AuthSession.HandleLogonProof, slice_append (by omega), slice_append (by omega)]
    dsimp only
    by_cases hexp : session._expversion = 0
    · simp [hexp]
    rw [if_neg hexp, if_neg hexp]
    by_cases hA : crypto.isZeroModN (slice xs 1 32) = true
    · simp [hA]
    rw [if_neg hA, if_neg hA]
    split
    · rename_i hM
      exact checkToken_append hlen fun hflag ↦
        htoken rfl ⟨hexp, Bool.eq_false_iff.mpr hA, hM, hflag⟩
    · rfl
  | AUTH_RECONNECT_PROOF =>
    have hlen : 58 ≤ xs.length := hpacket
    rw [AuthSession.handle, AuthSession.handle, AuthSession.HandleReconnectProof,
      AuthSession.HandleReconnectProof, slice_append (by omega), slice_append (by omega)]
  | REALM_LIST => rfl

/-! ## The buffer -/

variable (crypto) in
/-- The token behind a logon proof has come in when the proof is handled. -/
def TokenReceived (c : Connection) : Connection.Call → Prop
  | .readHandler => c.dispatch = .handle .AUTH_LOGON_PROOF 75 →
      ExpectsToken crypto c.session c._readBuffer.GetReadPointer →
      76 + (byteAt c._readBuffer.GetReadPointer 75).toNat ≤ c._readBuffer.GetActiveSize
  | _ => True

/-- The positions of the buffer are in order, and the bytes that have come in are those that have been
taken from it and those that are in it. -/
structure Tracked (c : Connection) : Prop where
  wellFormed : c._readBuffer.WellFormed
  stream : c.history.stream = c.history.consumed ++ c._readBuffer.unread

variable (crypto) in
/-- How many bytes a handler may look at: its message, and the fixed part at least. -/
def messageEnd (c : Connection) (cmd : AuthCmd) (size : ℕ) : ℕ :=
  max cmd.packetSize ((c.session.handle crypto c._readBuffer.GetReadPointer cmd).read + size)

variable (crypto) in
/-- The next turn of the loop looks at what has come in only, and a handler at its own message only. -/
def ReadsReceived (c : Connection) : Prop :=
  dispatch c.session._status c._readBuffer.unread.length c._readBuffer.unread = c.dispatch ∧
    ∀ cmd size, c.dispatch = .handle cmd size → messageEnd crypto c cmd size ≤ c._readBuffer.unread.length ∧
        c.session.handle crypto (c._readBuffer.unread.take (messageEnd crypto c cmd size)) cmd =
          c.session.handle crypto c._readBuffer.GetReadPointer cmd

section

variable (h : Tracked c)
include h

theorem Tracked.dispatch :
    dispatch c.session._status c._readBuffer.unread.length c._readBuffer.unread = c.dispatch := by
  rw [Connection.dispatch, h.wellFormed.getActiveSize, MessageBuffer.getReadPointer_eq, dispatch_append]

theorem Tracked.read_le (ht : TokenReceived crypto c .readHandler) (hd : c.dispatch = .handle cmd size) :
    (c.session.handle crypto c._readBuffer.GetReadPointer cmd).read + size ≤ c._readBuffer.unread.length := by
  obtain ⟨_, _, hsize, hmessage, _⟩ := dispatch_eq_handle hd
  rw [h.wellFormed.getActiveSize] at hsize
  rw [read_handle]
  split
  · rename_i htoken
    obtain ⟨rfl, htoken⟩ := htoken
    have h75 : size = 75 := hmessage
    subst h75
    have hall := ht hd htoken
    rw [h.wellFormed.getActiveSize] at hall
    omega
  · omega

theorem Tracked.handle_take (ht : TokenReceived crypto c .readHandler) (hd : c.dispatch = .handle cmd size) :
    messageEnd crypto c cmd size ≤ c._readBuffer.unread.length ∧ ∀ ys,
      c.session.handle crypto (c._readBuffer.unread.take (messageEnd crypto c cmd size) ++ ys) cmd =
        c.session.handle crypto (c._readBuffer.unread.take (messageEnd crypto c cmd size)) cmd := by
  obtain ⟨_, hpacket, _, hmessage, _⟩ := dispatch_eq_handle hd
  have hread := h.read_le ht hd
  rw [h.wellFormed.getActiveSize] at hpacket
  have hn : messageEnd crypto c cmd size ≤ c._readBuffer.unread.length := Nat.max_le.mpr ⟨hpacket, hread⟩
  refine ⟨hn, fun ys ↦ ?_⟩
  have hlen : (c._readBuffer.unread.take (messageEnd crypto c cmd size)).length =
      messageEnd crypto c cmd size := by rw [List.length_take]; omega
  have hp : c._readBuffer.GetReadPointer = c._readBuffer.unread.take (messageEnd crypto c cmd size) ++
        (c._readBuffer.unread.drop (messageEnd crypto c cmd size) ++
          c._readBuffer.GetReadPointer.drop (c._readBuffer._wpos - c._readBuffer._rpos)) := by
    rw [← List.append_assoc, List.take_append_drop]
    exact MessageBuffer.getReadPointer_eq
  have hle : cmd.packetSize ≤ (c._readBuffer.unread.take (messageEnd crypto c cmd size)).length := by
    rw [hlen]
    exact Nat.le_max_left _ _
  have hsame : messageSize cmd c._readBuffer.GetReadPointer =
      messageSize cmd (c._readBuffer.unread.take (messageEnd crypto c cmd size)) := by
    rw [hp]
    exact messageSize_append hle
  have hnle : (c.session.handle crypto c._readBuffer.GetReadPointer cmd).read + size ≤
      messageEnd crypto c cmd size := Nat.le_max_right _ _
  refine handle_append hle ?_ ?_
  · omega
  · rintro rfl htoken
    have h75 : 75 ≤ (c._readBuffer.unread.take
      (messageEnd crypto c .AUTH_LOGON_PROOF size)).length := hle
    have hexp : ExpectsToken crypto c.session c._readBuffer.GetReadPointer := by
      rw [hp]
      exact (expectsToken_append h75).mpr htoken
    have hr : (c.session.handle crypto c._readBuffer.GetReadPointer .AUTH_LOGON_PROOF).read =
        1 + (byteAt c._readBuffer.GetReadPointer 75).toNat :=
      (read_handle _).trans (if_pos ⟨rfl, hexp⟩)
    have hs75 : size = 75 := hmessage
    have hbyte : byteAt c._readBuffer.GetReadPointer 75 = byteAt
        (c._readBuffer.unread.take (messageEnd crypto c .AUTH_LOGON_PROOF size)) 75 := by
      rw [hp]
      exact byteAt_append (by omega)
    rw [← hbyte, hlen]
    omega

/-- The handler does with what is at the read pointer, and with all of a stream, what it does with its
message. -/
theorem Tracked.handle_stream (ht : TokenReceived crypto c .readHandler)
    (hd : c.dispatch = .handle cmd size) (rest : Bytes) :
    c.session.handle crypto (c._readBuffer.unread ++ rest) cmd =
      c.session.handle crypto (c._readBuffer.unread.take (messageEnd crypto c cmd size)) cmd := by
  have hall := (h.handle_take ht hd).2
    (c._readBuffer.unread.drop (messageEnd crypto c cmd size) ++ rest)
  rw [← List.append_assoc, List.take_append_drop] at hall
  exact hall

theorem Tracked.handle_readPointer (ht : TokenReceived crypto c .readHandler) (hd : c.dispatch = .handle cmd size) :
    c.session.handle crypto c._readBuffer.GetReadPointer cmd =
      c.session.handle crypto (c._readBuffer.unread.take (messageEnd crypto c cmd size)) cmd :=
  (congrArg (c.session.handle crypto · cmd) MessageBuffer.getReadPointer_eq).trans
    (h.handle_stream ht hd _)

theorem Tracked.readsReceived (ht : TokenReceived crypto c .readHandler) : ReadsReceived crypto c :=
  ⟨h.dispatch, fun _ _ hd ↦ ⟨(h.handle_take ht hd).1, (h.handle_readPointer ht hd).symm⟩⟩

theorem Tracked.asyncRead : Tracked c.AsyncRead ∧ c.AsyncRead._readBuffer.unread = c._readBuffer.unread := by
  obtain ⟨hwf, hunread⟩ := h.wellFormed.makeRoom
  have heq : c.AsyncRead._readBuffer.unread = c._readBuffer.unread := hunread
  refine ⟨⟨hwf, ?_⟩, heq⟩
  rw [heq]
  exact h.stream

theorem Tracked.handleMessage_ok (ht : TokenReceived crypto c .readHandler) (hd : c.dispatch = .handle cmd size)
    (hok : (c.session.handle crypto c._readBuffer.GetReadPointer cmd).ok = true) :
    (c.handleMessage crypto cmd size)._readBuffer.WellFormed ∧
      (c.handleMessage crypto cmd size)._readBuffer.unread = c._readBuffer.unread.drop
        ((c.session.handle crypto c._readBuffer.GetReadPointer cmd).read + size) ∧
      c._readBuffer.GetReadPointer.take ((c.session.handle crypto c._readBuffer.GetReadPointer cmd).read + size) =
        c._readBuffer.unread.take ((c.session.handle crypto c._readBuffer.GetReadPointer cmd).read + size) := by
  have hread := h.read_le ht hd
  have hbuf : (c.handleMessage crypto cmd size)._readBuffer = (c._readBuffer.ReadCompleted
        (c.session.handle crypto c._readBuffer.GetReadPointer cmd).read).ReadCompleted size := by
    simp [Connection.handleMessage, hok]
  have hwf := h.wellFormed.readCompleted (Nat.le_of_add_right_le hread)
  refine ⟨?_, ?_, ?_⟩
  · rw [hbuf]
    refine hwf.readCompleted ?_
    rw [MessageBuffer.unread_readCompleted, List.length_drop]
    omega
  · simp [hbuf, MessageBuffer.unread_readCompleted]
  · exact MessageBuffer.take_getReadPointer hread

theorem Tracked.handleMessage (ht : TokenReceived crypto c .readHandler)
    (hd : c.dispatch = .handle cmd size) : Tracked (c.handleMessage crypto cmd size) := by
  by_cases hok : (c.session.handle crypto c._readBuffer.GetReadPointer cmd).ok = true
  · obtain ⟨hwf, hunread, htake⟩ := h.handleMessage_ok ht hd hok
    refine ⟨hwf, ?_⟩
    have hhist : (c.handleMessage crypto cmd size).history.stream = c.history.stream ∧
        (c.handleMessage crypto cmd size).history.consumed = c.history.consumed ++ c._readBuffer.GetReadPointer.take
            ((c.session.handle crypto c._readBuffer.GetReadPointer cmd).read + size) := by
      rw [Connection.handleMessage]
      rw [if_pos hok]
      exact ⟨rfl, rfl⟩
    simpa [hhist.1, hhist.2, hunread, htake] using h.stream
  · have hbuf : (c.handleMessage crypto cmd size)._readBuffer = c._readBuffer ∧
        (c.handleMessage crypto cmd size).history.stream = c.history.stream ∧
        (c.handleMessage crypto cmd size).history.consumed = c.history.consumed := by
      rw [Connection.handleMessage]
      rw [if_neg hok]
      exact ⟨rfl, rfl, rfl⟩
    exact ⟨hbuf.1 ▸ h.wellFormed, by rw [hbuf.1, hbuf.2.1, hbuf.2.2]; exact h.stream⟩

theorem Tracked.readHandler (ht : TokenReceived crypto c .readHandler) : Tracked (c.readHandler crypto) := by
  rw [Connection.readHandler]
  cases hd : c.dispatch with
  | wait => exact h.asyncRead.1
  | ignore =>
    refine (Tracked.asyncRead ⟨MessageBuffer.wellFormed_reset _, ?_⟩).1
    simpa [MessageBuffer.unread_reset] using h.stream
  | reject => exact ⟨h.wellFormed, h.stream⟩
  | handle cmd size => exact h.handleMessage ht hd

theorem Tracked.answer (a : Answer) : Tracked (c.answer crypto ip a) := by
  cases a with
  | CheckIpCallback result =>
    rw [Connection.answer]
    split
    · exact ⟨h.wellFormed, h.stream⟩
    · refine And.left (Tracked.asyncRead ?_)
      exact ⟨h.wellFormed, h.stream⟩
  | LogonChallengeCallback result salt b => exact ⟨h.wellFormed, h.stream⟩
  | ReconnectChallengeCallback result r => exact ⟨h.wellFormed, h.stream⟩
  | RealmListCallback => exact ⟨h.wellFormed, h.stream⟩

theorem Tracked.next {call : Connection.Call} (ht : TokenReceived crypto c call)
    (hn : c.next crypto ip call = some c') : Tracked c' := by
  cases call with
  | answer a =>
    obtain ⟨_, rfl⟩ := Option.ite_none_right_eq_some.mp hn |>.imp_right Option.some.inj
    exact h.answer a
  | received bytes =>
    obtain ⟨_, rfl⟩ := Option.ite_none_right_eq_some.mp hn |>.imp_right Option.some.inj
    refine ⟨h.wellFormed.writeCompleted bytes, ?_⟩
    rw [Connection.received, h.wellFormed.unread_writeCompleted, ← List.append_assoc, ← h.stream]
  | readError =>
    obtain ⟨_, rfl⟩ := Option.ite_none_right_eq_some.mp hn |>.imp_right Option.some.inj
    exact ⟨h.wellFormed, h.stream⟩
  | readHandler =>
    obtain ⟨_, rfl⟩ := Option.ite_none_right_eq_some.mp hn |>.imp_right Option.some.inj
    exact h.readHandler ht

end

theorem Tracked.start : Tracked Connection.start := ⟨⟨Nat.le_refl _, Nat.zero_le _⟩, rfl⟩

theorem tracked_of_reaches (h : (authServer crypto ip).Reaches (TokenReceived crypto) c) : Tracked c :=
  h.invariant Tracked.start fun _ _ _ hc ht hn ↦ hc.next ht hn

/-! ## The whole stream at once -/

/-- A session with all of a stream, and the answers to come. -/
structure Ideal where
  session : AuthSession
  rest : Bytes
  answers : List Answer
  messages : List Bytes
  closed : Bool

namespace Ideal

/-- A session at its start. -/
def start (stream : Bytes) (answers : List Answer) : Ideal := ⟨AuthSession.start, stream, answers, [], false⟩

variable (crypto ip) in
/-- A query is answered, or if there is none, the next message of the stream is handled. -/
def step (x : Ideal) : Option Ideal :=
  if x.closed then none
  else
    match x.session._queryProcessor, x.answers with
    | _ :: _, [] => none
    | _ :: _, a :: answers =>
      some { x with session := x.session.answer crypto ip a, answers := answers }
    | [], _ =>
      match dispatch x.session._status x.rest.length x.rest with
      | .wait | .ignore => none
      | .reject => some { x with closed := true }
      | .handle cmd size =>
        let handled := x.session.handle crypto x.rest cmd
        if handled.ok then
          some { x with
            session := handled.session
            rest := x.rest.drop (handled.read + size)
            messages := x.messages ++ [x.rest.take (handled.read + size)] }
        else some { x with session := handled.session, closed := true }

theorem step_of_closed {x : Ideal} (h : x.closed = true) : x.step crypto ip = none := if_pos h

theorem step_answer {x : Ideal} (hopen : x.closed = false) (hq : x.session._queryProcessor ≠ [])
    {a : Answer} {answers : List Answer} (ha : x.answers = a :: answers) :
    x.step crypto ip = some { x with session := x.session.answer crypto ip a, answers := answers } := by
  rw [step, if_neg (Bool.eq_false_iff.mp hopen), ha]
  cases hp : x.session._queryProcessor with
  | nil => exact absurd hp hq
  | cons q queries => rfl

theorem step_message {x : Ideal} (hopen : x.closed = false) (hq : x.session._queryProcessor = []) :
    x.step crypto ip = match dispatch x.session._status x.rest.length x.rest with
      | .wait | .ignore => none
      | .reject => some { x with closed := true }
      | .handle cmd size =>
        let handled := x.session.handle crypto x.rest cmd
        if handled.ok then
          some { x with
            session := handled.session
            rest := x.rest.drop (handled.read + size)
            messages := x.messages ++ [x.rest.take (handled.read + size)] }
        else some { x with session := handled.session, closed := true } := by
  rw [step, if_neg (Bool.eq_false_iff.mp hopen), hq]

variable (crypto ip) in
/-- Some steps lead from `x` to `y`. -/
def Leads (x y : Ideal) : Prop := Relation.ReflTransGen (fun x y : Ideal ↦ x.step crypto ip = some y) x y

theorem Leads.unique {x y z : Ideal} (hy : Leads crypto ip x y) (hz : Leads crypto ip x z)
    (hny : y.step crypto ip = none) (hnz : z.step crypto ip = none) : y = z := by
  have hstuck : ∀ {y z : Ideal}, Leads crypto ip y z → y.step crypto ip = none → y = z := by
    intro y z h hn
    rcases h.cases_head with rfl | ⟨w, hw, _⟩
    · rfl
    · simp [hn] at hw
  have hunique : Relator.RightUnique fun x y : Ideal ↦ x.step crypto ip = some y := by
    intro x y z h1 h2
    exact Option.some.inj (h1.symm.trans h2)
  rcases Relation.ReflTransGen.total_of_right_unique hunique hy hz with h | h
  · exact hstuck h hny
  · exact (hstuck h hnz).symm

end Ideal

/-- Callbacks finish before the next message is looked at, and reading does not fail. -/
def CallbacksFinish (c : Connection) : Connection.Call → Prop
  | .readHandler => c._readBuffer.GetActiveSize ≠ 0 → c.session._queryProcessor = []
  | .readError => False
  | _ => True

variable (crypto) in
/-- Callbacks finish between messages, a token has come in when it is read, and every message begins
with a command. -/
def Orderly (c : Connection) (call : Connection.Call) : Prop :=
  CallbacksFinish c call ∧ TokenReceived crypto c call ∧ (call = .readHandler → c.dispatch ≠ .ignore)

instance (c : Connection) : (call : Connection.Call) → Decidable (TokenReceived crypto c call)
  | .readHandler => inferInstanceAs (Decidable (_ → _))
  | .answer _ => inferInstanceAs (Decidable True)
  | .received _ => inferInstanceAs (Decidable True)
  | .readError => inferInstanceAs (Decidable True)

instance (c : Connection) : (call : Connection.Call) → Decidable (CallbacksFinish c call)
  | .readHandler => inferInstanceAs (Decidable (_ → _))
  | .answer _ => inferInstanceAs (Decidable True)
  | .received _ => inferInstanceAs (Decidable True)
  | .readError => inferInstanceAs (Decidable False)

instance (c : Connection) (call : Connection.Call) : Decidable (Orderly crypto c call) :=
  inferInstanceAs (Decidable (_ ∧ _))

/-- The connection is closed, or has got all of the stream and waits for more. -/
def Finished (stream : Bytes) (c : Connection) : Prop :=
  c._closed = true ∨ (c.history.stream = stream ∧ c.activity ≠ .handling)

/-- The connection, as a session that has the rest of the stream already. -/
def idealOf (c : Connection) (rest : Bytes) (answers : List Answer) : Ideal :=
  ⟨c.session, c._readBuffer.unread ++ rest, answers, c.history.messages, c._closed⟩

variable (crypto ip) in
/-- What holds of a connection in an orderly run: its session goes the way it would with all of the
stream, and it rests only where there is nothing to do. -/
structure Follows (c : Connection) : Prop where
  tracked : Tracked c
  rests : c.activity ≠ .handling → c._readBuffer.unread = [] ∨ (c.session._queryProcessor = [] ∧ c.dispatch = .wait)
  leads : ∀ rest answers, (Ideal.start (c.history.stream ++ rest) (c.history.answers ++ answers)).Leads crypto ip
      (idealOf c rest answers)

namespace Connection

/-- A callback leaves the buffer and the messages as they are. -/
theorem answer_rest (crypto : Crypto) (ip : Bytes) (h : Tracked c) (a : Answer) :
    (c.answer crypto ip a)._readBuffer.unread = c._readBuffer.unread ∧ (c.answer crypto ip a)._closed = c._closed ∧
      (c.answer crypto ip a).history.messages = c.history.messages ∧
      (c.answer crypto ip a).history.stream = c.history.stream := by
  cases a with
  | CheckIpCallback result =>
    rw [answer]
    split
    · exact ⟨rfl, rfl, rfl, rfl⟩
    · exact ⟨h.wellFormed.makeRoom.2, rfl, rfl, rfl⟩
  | LogonChallengeCallback result salt b => exact ⟨rfl, rfl, rfl, rfl⟩
  | ReconnectChallengeCallback result r => exact ⟨rfl, rfl, rfl, rfl⟩
  | RealmListCallback => exact ⟨rfl, rfl, rfl, rfl⟩

end Connection

section

variable (h : Follows crypto ip c)
include h

theorem Follows.answer {a : Answer} (hopen : c._closed = false)
    (hact : c.activity ≠ .handling) (hfor : c.session._queryProcessor.any a.isFor = true) :
    Follows crypto ip (c.answer crypto ip a) := by
  obtain ⟨hunread, hclosed, hmessages, hstream⟩ := Connection.answer_rest crypto ip h.tracked a
  have hne : c.session._queryProcessor ≠ [] := fun hnil ↦ by
    simp [hnil] at hfor
  have hempty : c._readBuffer.unread = [] := (h.rests hact).resolve_right fun hq ↦ hne hq.1
  refine ⟨h.tracked.answer a, fun _ ↦ .inl (hunread.trans hempty), fun rest answers ↦ ?_⟩
  rw [hstream, Connection.answer_answers, List.append_assoc]
  refine (h.leads rest (a :: answers)).tail ?_
  have hideal : idealOf (c.answer crypto ip a) rest answers = { idealOf c rest (a :: answers) with
        session := c.session.answer crypto ip a, answers := answers } := by
    rw [idealOf, hunread, hclosed, hmessages, Connection.answer_session]
    rfl
  rw [hideal]
  exact Ideal.step_answer hopen hne rfl

theorem Follows.received (bytes : Bytes) : Follows crypto ip (c.received bytes) := by
  have hunread : (c.received bytes)._readBuffer.unread = c._readBuffer.unread ++ bytes :=
    h.tracked.wellFormed.unread_writeCompleted bytes
  refine ⟨⟨h.tracked.wellFormed.writeCompleted bytes, ?_⟩, fun hact ↦ absurd rfl hact, fun rest answers ↦ ?_⟩
  · rw [hunread, ← List.append_assoc]
    exact congrArg (· ++ bytes) h.tracked.stream
  · have hideal : idealOf (c.received bytes) rest answers = idealOf c (bytes ++ rest) answers := by
      rw [idealOf, idealOf, hunread, List.append_assoc]
      rfl
    rw [hideal]
    have hleads := h.leads (bytes ++ rest) answers
    rw [← List.append_assoc] at hleads
    exact hleads

theorem Follows.wait (hd : c.dispatch = .wait) (hq : c._readBuffer.GetActiveSize ≠ 0 → c.session._queryProcessor = []) :
    Follows crypto ip c.AsyncRead := by
  obtain ⟨htracked, hunread⟩ := h.tracked.asyncRead
  refine ⟨htracked, fun _ ↦ ?_, fun rest answers ↦ ?_⟩
  · by_cases hempty : c._readBuffer.unread = []
    · exact .inl (hunread.trans hempty)
    · refine .inr ⟨hq ?_, ?_⟩
      · rw [h.tracked.wellFormed.getActiveSize]
        exact fun h0 ↦ hempty (List.length_eq_zero_iff.mp h0)
      · rw [← htracked.dispatch, hunread]
        exact h.tracked.dispatch.trans hd
  · have hideal : idealOf c.AsyncRead rest answers = idealOf c rest answers := by
      rw [idealOf, idealOf, hunread]
      rfl
    rw [hideal]
    exact h.leads rest answers

/-- Where the loop does not wait, it does with all of the stream what it does with what is there. -/
theorem Follows.dispatch_rest (hd : c.dispatch ≠ .wait) (rest : Bytes) :
    dispatch c.session._status (c._readBuffer.unread ++ rest).length (c._readBuffer.unread ++ rest) = c.dispatch := by
  rw [← h.tracked.dispatch] at hd ⊢
  exact dispatch_stream _ hd

end

theorem activeSize_ne_zero (hd : c.dispatch ≠ .wait) : c._readBuffer.GetActiveSize ≠ 0 := fun h0 ↦ hd (if_pos h0)

section

variable (h : Follows crypto ip c) (hopen : c._closed = false) (hact : c.activity = .handling)
include h hopen hact

theorem Follows.reject (hd : c.dispatch = .reject)
    (hq : c._readBuffer.GetActiveSize ≠ 0 → c.session._queryProcessor = []) :
    Follows crypto ip c.CloseSocket := by
  have hwait : c.dispatch ≠ .wait := by rw [hd]; exact Dispatch.noConfusion
  refine ⟨⟨h.tracked.wellFormed, h.tracked.stream⟩, fun hne ↦ absurd hact hne,
    fun rest answers ↦ (h.leads rest answers).tail ?_⟩
  rw [Ideal.step_message hopen (hq (activeSize_ne_zero hwait))]
  have hd' := (h.dispatch_rest hwait rest).trans hd
  rw [show dispatch (idealOf c rest answers).session._status (idealOf c rest answers).rest.length
    (idealOf c rest answers).rest = .reject from hd']
  rfl

theorem Follows.handleMessage (hd : c.dispatch = .handle cmd size) (ht : TokenReceived crypto c .readHandler)
    (hq : c._readBuffer.GetActiveSize ≠ 0 → c.session._queryProcessor = []) :
    Follows crypto ip (c.handleMessage crypto cmd size) := by
  have hwait : c.dispatch ≠ .wait := by rw [hd]; exact Dispatch.noConfusion
  have hread := h.tracked.read_le ht hd
  have hkept : (c.handleMessage crypto cmd size).activity = c.activity ∧
      (c.handleMessage crypto cmd size).history.stream = c.history.stream := by
    rw [Connection.handleMessage]
    dsimp only
    split <;> exact ⟨rfl, rfl⟩
  refine ⟨h.tracked.handleMessage ht hd, fun hne ↦ absurd (hkept.1.trans hact) hne, fun rest answers ↦ ?_⟩
  rw [hkept.2, Connection.handleMessage_answers]
  refine (h.leads rest answers).tail ?_
  -- the session with all of the stream handles the same message with the same handler
  have hd' : dispatch (idealOf c rest answers).session._status
      (idealOf c rest answers).rest.length (idealOf c rest answers).rest = .handle cmd size :=
    (h.dispatch_rest hwait rest).trans hd
  have hhandled : c.session.handle crypto (c._readBuffer.unread ++ rest) cmd =
      c.session.handle crypto c._readBuffer.GetReadPointer cmd :=
    (h.tracked.handle_stream ht hd rest).trans (h.tracked.handle_readPointer ht hd).symm
  rw [Ideal.step_message hopen (hq (activeSize_ne_zero hwait)), hd']
  dsimp only [idealOf]
  rw [hhandled]
  by_cases hok : (c.session.handle crypto c._readBuffer.GetReadPointer cmd).ok = true
  · obtain ⟨_, hunread, htake⟩ := h.tracked.handleMessage_ok ht hd hok
    rw [if_pos hok, hunread, Connection.handleMessage_session,
      List.drop_append_of_le_length hread, List.take_append_of_le_length hread, ← htake,
      Connection.handleMessage]
    simp [hok]
  · rw [if_neg hok, Connection.handleMessage_session, Connection.handleMessage]
    dsimp only
    rw [if_neg hok]
    rfl

end

theorem Follows.next (h : Follows crypto ip c) {call : Connection.Call}
    (hcall : Orderly crypto c call) (hn : c.next crypto ip call = some c') :
    Follows crypto ip c' := by
  cases call with
  | answer a =>
    obtain ⟨⟨hopen, hact, hfor⟩, rfl⟩ := Option.ite_none_right_eq_some.mp hn |>.imp_right Option.some.inj
    exact h.answer hopen hact hfor
  | received bytes =>
    obtain ⟨_, rfl⟩ := Option.ite_none_right_eq_some.mp hn |>.imp_right Option.some.inj
    exact h.received bytes
  | readError => exact hcall.1.elim
  | readHandler =>
    obtain ⟨⟨hopen, hact⟩, rfl⟩ := Option.ite_none_right_eq_some.mp hn |>.imp_right Option.some.inj
    obtain ⟨hq, ht, hignore⟩ := hcall
    rw [Connection.readHandler]
    cases hd : c.dispatch with
    | wait => exact h.wait hd hq
    | ignore => exact absurd hd (hignore rfl)
    | reject => exact h.reject hopen hact hd hq
    | handle cmd size => exact h.handleMessage hopen hact hd ht hq

theorem Follows.start : Follows crypto ip Connection.start :=
  ⟨Tracked.start, fun _ ↦ .inl rfl, fun _ _ ↦ Relation.ReflTransGen.refl⟩

theorem follows_of_reaches (h : (authServer crypto ip).Reaches (Orderly crypto) c) : Follows crypto ip c :=
  h.invariant Follows.start fun _ _ _ hc hcall hn ↦ hc.next hcall hn

/-- A connection that has finished with a stream is at the end of what the session does with it. -/
theorem Follows.leads_of_finished (h : Follows crypto ip c) {stream : Bytes}
    (hpre : c.history.stream <+: stream) (hfin : Finished stream c) :
    ∃ x, (Ideal.start stream c.history.answers).Leads crypto ip x ∧ x.step crypto ip = none ∧
      x.messages = c.history.messages ∧ x.session = c.session ∧ x.closed = c._closed := by
  obtain ⟨rest, rfl⟩ := hpre
  have hleads := h.leads rest []
  rw [List.append_nil] at hleads
  refine ⟨_, hleads, ?_, rfl, rfl, rfl⟩
  rcases hfin with hclosed | ⟨hall, hact⟩
  · exact Ideal.step_of_closed hclosed
  have hrest : rest = [] := List.append_right_eq_self.mp hall.symm
  subst hrest
  by_cases hclosed : c._closed = true
  · exact Ideal.step_of_closed hclosed
  have hopen : (idealOf c [] []).closed = false := Bool.eq_false_iff.mpr hclosed
  by_cases hq : c.session._queryProcessor = []
  · rw [Ideal.step_message hopen hq]
    have hwait : dispatch (idealOf c [] []).session._status (idealOf c [] []).rest.length
        (idealOf c [] []).rest = .wait := by
      rw [idealOf, List.append_nil]
      rcases h.rests hact with hempty | ⟨_, hd⟩
      · rw [hempty]
        rfl
      · exact h.tracked.dispatch.trans hd
    rw [hwait]
  · rw [Ideal.step, if_neg (Bool.eq_false_iff.mp hopen)]
    cases hp : (idealOf c [] []).session._queryProcessor with
    | nil => exact absurd hp hq
    | cons q queries => rfl

/-! ## All streams -/

variable (crypto) in
/-- The positions of the buffer are in order, all bytes that come in are used once, and the loop looks
at what has come in only. -/
def InputSound (c : Connection) : Prop := c._readBuffer._rpos ≤ c._readBuffer._wpos ∧
    c.history.stream = c.history.consumed ++ c._readBuffer.unread ∧ ReadsReceived crypto c

/-- Two connections that are through with a stream, and were told the same, have handled the same
messages and are in the same state. -/
def SameHandling (stream : Bytes) (c₁ c₂ : Connection) : Prop :=
  c₁.history.stream <+: stream → c₂.history.stream <+: stream →
    c₁.history.answers = c₂.history.answers → Finished stream c₁ → Finished stream c₂ →
    c₁.history.messages = c₂.history.messages ∧ c₁.session = c₂.session ∧ c₁._closed = c₂._closed

/-- **Input is handled as it should be where tokens come in with their proofs**, and then the same for
every way to cut a stream into pieces, in orderly runs. -/
theorem input_handled_of_reaches (crypto : Crypto) (ip : Bytes) :
    (∀ c, (authServer crypto ip).Reaches (TokenReceived crypto) c →
      TokenReceived crypto c .readHandler → InputSound crypto c) ∧
    ∀ stream c₁ c₂, (authServer crypto ip).Reaches (Orderly crypto) c₁ →
      (authServer crypto ip).Reaches (Orderly crypto) c₂ → SameHandling stream c₁ c₂ := by
  refine ⟨fun c h ht ↦ ?_, fun stream c₁ c₂ h₁ h₂ hs₁ hs₂ hans hf₁ hf₂ ↦ ?_⟩
  · have htracked := tracked_of_reaches h
    exact ⟨htracked.wellFormed.read_le, htracked.stream, htracked.readsReceived ht⟩
  · obtain ⟨x, hx, hnx, hmx, hsx, hcx⟩ := (follows_of_reaches h₁).leads_of_finished hs₁ hf₁
    obtain ⟨y, hy, hny, hmy, hsy, hcy⟩ := (follows_of_reaches h₂).leads_of_finished hs₂ hf₂
    rw [hans] at hx
    have heq := hx.unique hy hnx hny
    subst heq
    exact ⟨hmx.symm.trans hmy, hsx.symm.trans hsy, hcx.symm.trans hcy⟩

/-- A challenge in one piece, and one that is cut in two. -/
def wholeRun : List Connection.Call :=
  [.answer (.CheckIpCallback []), .received (challengeBytes 0x00), .readHandler, .readHandler]

def cutRun : List Connection.Call :=
  [.answer (.CheckIpCallback []), .received ((challengeBytes 0x00).take 10), .readHandler,
   .received ((challengeBytes 0x00).drop 10), .readHandler, .readHandler]

theorem input_handled_of_reaches_cut : ∃ c₁ c₂ : Connection, InputSound plainCrypto c₁ ∧
      c₁.history.messages = c₂.history.messages ∧ c₁.session = c₂.session ∧
      c₁.history.messages = [challengeBytes 0x00] := by
  obtain ⟨c₁, hc₁, hs₁, hf₁, ha₁, hm₁, ht₁⟩ := (authServer plainCrypto []).exists_reaches (Orderly plainCrypto)
    wholeRun
    (fun c ↦ c.history.stream = challengeBytes 0x00 ∧ c.activity ≠ .handling ∧
      c.history.answers = [.CheckIpCallback []] ∧ c.history.messages = [challengeBytes 0x00] ∧
      TokenReceived plainCrypto c .readHandler) (by decide +kernel)
  obtain ⟨c₂, hc₂, hs₂, hf₂, ha₂⟩ := (authServer plainCrypto []).exists_reaches (Orderly plainCrypto) cutRun
    (fun c ↦ c.history.stream = challengeBytes 0x00 ∧ c.activity ≠ .handling ∧
      c.history.answers = [.CheckIpCallback []]) (by decide +kernel)
  obtain ⟨hsound, hsame⟩ := input_handled_of_reaches plainCrypto []
  obtain ⟨hmessages, hsession, _⟩ := hsame (challengeBytes 0x00) c₁ c₂ hc₁ hc₂
    (hs₁ ▸ List.prefix_refl _) (hs₂ ▸ List.prefix_refl _) (ha₁.trans ha₂.symm) (.inr ⟨hs₁, hf₁⟩) (.inr ⟨hs₂, hf₂⟩)
  exact ⟨c₁, c₂, hsound c₁ (hc₁.mono fun _ _ h ↦ h.2.1) ht₁, hmessages, hsession, hm₁⟩

/-- A logon proof that announces a token, with nothing behind it. -/
def missingTokenRun : List Connection.Call :=
  [.answer (.CheckIpCallback []), .received (challengeBytes 0x00), .readHandler, .readHandler,
   .answer (.LogonChallengeCallback (some ⟨accountRow false, [], [], [], []⟩) 1 1),
   .received (0x01 :: 1 :: (List.replicate 72 0 ++ [0x04])), .readHandler]

/-- The handler takes a token from the buffer that is not there. -/
theorem not_inputSound : ¬ ∀ crypto ip,
    (∀ c, (authServer crypto ip).Reachable c → InputSound crypto c) ∧
      ∀ stream c₁ c₂, (authServer crypto ip).Reaches CallbacksFinish c₁ →
        (authServer crypto ip).Reaches CallbacksFinish c₂ → SameHandling stream c₁ c₂ := by
  intro hall
  obtain ⟨c, hc, hw⟩ := (authServer plainCrypto []).exists_reachable missingTokenRun
    (fun c ↦ c._readBuffer._wpos < c._readBuffer._rpos) (by decide +kernel)
  have hle := ((hall plainCrypto []).1 c hc).1
  exact absurd hw (Nat.not_lt.mpr hle)

end Gundrak
