import Gundrak.Auth.AuthSession

/-!
# Who gets the list of the realms

Two ways lead to `STATUS_AUTHED`: a logon challenge and its proof, or a reconnect challenge and its proof.
`Authenticated` says that one of them has been gone to its end since the last challenge, and it holds
whenever the realm list is asked for.  A session has one challenge at most, since no handler goes back to
`STATUS_CHALLENGE`, so what a proof is checked against is what this challenge loaded (`Inv`).

A banned account, or one that is locked to another address, is refused when a logon challenge is answered.
`ReconnectChallengeCallback` loads the same columns and looks at none of them.

**`authenticated_of_reaches`** puts these together: the list is asked for only after a proof, a message
for another status closes the connection and changes nothing, and as long as reconnect challenges are
answered with accounts that a logon would let in, no other account gets to `STATUS_AUTHED`.
-/

namespace Gundrak

variable {crypto : Crypto} {ip : Bytes} {session : AuthSession} {bytes : Bytes}
  {c c' : Connection} {cmd : AuthCmd} {size : ℕ}

/-! ## What is required -/

/-- The account is banned, or locked to another address than `ip`. -/
def Barred (ip : Bytes) (row : AccountRow) : Prop := (row.locked = true ∧ row.last_ip ≠ ip) ∨ row.banned = true

instance (row : AccountRow) : Decidable (Barred ip row) := inferInstanceAs (Decidable (_ ∨ _))

variable (crypto) in
/-- A logon proof has the `M` that is computed for the account and, if this has a token key, the
token. -/
def LogonProofMatches (row : LogonRow) (salt b : ℕ) (bytes : Bytes) : Prop :=
  let (s, v) := AuthSession.saltAndVerifier crypto row salt
  let A := slice bytes 1 32
  let B := crypto.publicKey v b
  crypto.proof (crypto.Utf8ToUpperOnlyLatin row.username) s A B (crypto.sessionKey A v b B) = slice bytes 33 20 ∧
    (row.token_key ≠ [] → crypto.GenerateToken row.token_key = uint32 (atoi (slice bytes 76 (byteAt bytes 75).toNat)))

variable (crypto) in
/-- A reconnect proof has the digest that is computed for the account. -/
def ReconnectProofMatches (row : ReconnectRow) (reconnectProof : ℕ) (bytes : Bytes) : Prop :=
  crypto.reconnectDigest (crypto.Utf8ToUpperOnlyLatin row.username) (slice bytes 1 16)
    reconnectProof (crypto.SetHexStr row.sessionKey) = slice bytes 17 20

variable (crypto) in
/-- Among these events are the answer to a challenge and a proof that matches it. -/
def Authenticated (since : List Event) : Prop :=
  (∃ row salt b bytes, .answer (.LogonChallengeCallback (some row) salt b) ∈ since ∧
    .message .AUTH_LOGON_PROOF bytes ∈ since ∧ LogonProofMatches crypto row salt b bytes) ∨
  (∃ row reconnectProof bytes, .answer (.ReconnectChallengeCallback (some row) reconnectProof) ∈ since ∧
    .message .AUTH_RECONNECT_PROOF bytes ∈ since ∧
    ReconnectProofMatches crypto row reconnectProof bytes)

theorem Authenticated.cons {since : List Event} (h : Authenticated crypto since) (e : Event) :
    Authenticated crypto (e :: since) := by
  rcases h with ⟨row, salt, b, bytes, ha, hm, hp⟩ | ⟨row, r, bytes, ha, hm, hp⟩
  · exact .inl ⟨row, salt, b, bytes, List.mem_cons_of_mem _ ha, List.mem_cons_of_mem _ hm, hp⟩
  · exact .inr ⟨row, r, bytes, List.mem_cons_of_mem _ ha, List.mem_cons_of_mem _ hm, hp⟩

/-- The query is for a challenge. -/
def Query.isChallenge : Query → Bool
  | .logonChallenge _ | .reconnectChallenge _ => true
  | _ => false

/-- The query is for the characters on the realms. -/
def Query.isRealmList : Query → Bool
  | .realmList _ => true
  | _ => false

/-- The callback answers a challenge. -/
def Answer.isChallenge : Answer → Bool
  | .LogonChallengeCallback _ _ _ | .ReconnectChallengeCallback _ _ => true
  | _ => false

/-- The callback is that of the realm list. -/
def Answer.isRealmList : Answer → Bool
  | .RealmListCallback => true
  | _ => false

/-- The account that a callback loads. -/
def Answer.account : Answer → Option AccountRow
  | .LogonChallengeCallback result _ _ => result.map LogonRow.toAccountRow
  | .ReconnectChallengeCallback result _ => result.map ReconnectRow.toAccountRow
  | _ => none

theorem Answer.isChallenge_of_account {a : Answer} {row : AccountRow} (h : a.account = some row) :
    a.isChallenge = true := by
  cases a with
  | CheckIpCallback result => cases h
  | LogonChallengeCallback result salt b => rfl
  | ReconnectChallengeCallback result r => rfl
  | RealmListCallback => cases h

theorem Answer.kind_of_isFor {a : Answer} {q : Query} (h : a.isFor q = true) :
    q.isChallenge = a.isChallenge ∧ q.isRealmList = a.isRealmList := by
  cases a <;> cases q <;> first | exact ⟨rfl, rfl⟩ | cases h

theorem Query.not_isRealmList {q : Query} (h : q.isChallenge = true) : ¬ q.isRealmList = true := by
  cases q <;> first | exact Bool.false_ne_true | cases h

/-! ## The handlers -/

namespace AuthSession

theorem handleChallenge_spec (session : AuthSession) (bytes : Bytes) (query : Bytes → Query) :
    (session.handleChallenge bytes query).session._status = .STATUS_CLOSED ∧
      ((session.handleChallenge bytes query).session._queryProcessor = session._queryProcessor ∨
        ∃ login, (session.handleChallenge bytes query).session._queryProcessor =
          session._queryProcessor ++ [query login]) := by
  rw [handleChallenge]
  split
  · exact ⟨rfl, .inl rfl⟩
  · exact ⟨rfl, .inr ⟨_, rfl⟩⟩

/-- A logon proof leaves the session closed, or authenticated by the `M` and the token it has. -/
theorem handleLogonProof_spec (crypto : Crypto) (session : AuthSession) (bytes : Bytes) :
    (session.HandleLogonProof crypto bytes).session._queryProcessor = session._queryProcessor ∧
      ((session.HandleLogonProof crypto bytes).session._status = .STATUS_CLOSED ∨
        (session.HandleLogonProof crypto bytes).session._status = .STATUS_AUTHED ∧
        crypto.proof session._accountInfo.Login session.s (slice bytes 1 32) session.B
          (crypto.sessionKey (slice bytes 1 32) session.v session.b session.B) = slice bytes 33 20 ∧
        (session._tokenKey ≠ [] → crypto.GenerateToken session._tokenKey =
          uint32 (atoi (slice bytes 76 (byteAt bytes 75).toNat)))) := by
  rw [HandleLogonProof]
  split
  · exact ⟨rfl, .inl rfl⟩
  dsimp only
  split
  · exact ⟨rfl, .inl rfl⟩
  split
  · rename_i hM
    rw [checkToken]
    split
    · dsimp only
      split
      · exact ⟨rfl, .inl rfl⟩
      · rename_i htoken
        exact ⟨rfl, .inr ⟨rfl, hM, fun _ ↦ not_not.mp htoken⟩⟩
    · rename_i hno
      exact ⟨rfl, .inr ⟨rfl, hM, fun hkey ↦ absurd (.inr hkey) hno⟩⟩
  · exact ⟨rfl, .inl rfl⟩

/-- A reconnect proof leaves the session closed, or authenticated by the digest it has. -/
theorem handleReconnectProof_spec (crypto : Crypto) (session : AuthSession) (bytes : Bytes) :
    (session.HandleReconnectProof crypto bytes).session._queryProcessor = session._queryProcessor ∧
      ((session.HandleReconnectProof crypto bytes).session._status = .STATUS_CLOSED ∨
        (session.HandleReconnectProof crypto bytes).session._status = .STATUS_AUTHED ∧
        crypto.reconnectDigest session._accountInfo.Login (slice bytes 1 16) session._reconnectProof
          session.K = slice bytes 17 20) := by
  rw [HandleReconnectProof]
  split
  · exact ⟨rfl, .inl rfl⟩
  dsimp only
  split
  · rename_i hdigest
    exact ⟨rfl, .inr ⟨rfl, hdigest⟩⟩
  · exact ⟨rfl, .inl rfl⟩

end AuthSession

theorem dispatch_eq_handle {status : AuthStatus} {active : ℕ} (h : dispatch status active bytes = .handle cmd size) :
    status = cmd.status ∧ cmd.packetSize ≤ active ∧ size ≤ active ∧ size = messageSize cmd bytes ∧
      (cmd.isChallenge = true → size ≤ MAX_ACCEPTED_CHALLENGE_SIZE) := by
  rw [dispatch] at h
  split at h
  · cases h
  split at h
  · cases h
  split at h
  · cases h
  split at h
  · cases h
  split at h
  · cases h
  split at h
  · cases h
  rename_i hstatus hpacket hmax hsize
  cases h
  exact ⟨not_not.mp hstatus, Nat.not_lt.mp hpacket, Nat.not_lt.mp hsize, rfl,
    fun hch ↦ Nat.not_lt.mp fun hlt ↦ hmax ⟨hch, hlt⟩⟩

/-! ## The invariant -/

variable (crypto) in
/-- The session has what a logon challenge for this account loads. -/
structure LogonLoaded (session : AuthSession) (row : LogonRow) (salt b : ℕ) : Prop where
  login : session._accountInfo.Login = crypto.Utf8ToUpperOnlyLatin row.username
  s_eq : session.s = (AuthSession.saltAndVerifier crypto row salt).1
  v_eq : session.v = (AuthSession.saltAndVerifier crypto row salt).2
  b_eq : session.b = b
  B_eq : session.B = crypto.publicKey (AuthSession.saltAndVerifier crypto row salt).2 b
  token : session._tokenKey = row.token_key

variable (crypto) in
/-- The session has what a reconnect challenge for this account loads. -/
structure ReconnectLoaded (session : AuthSession) (row : ReconnectRow) (reconnectProof : ℕ) : Prop where
  login : session._accountInfo.Login = crypto.Utf8ToUpperOnlyLatin row.username
  K_eq : session.K = crypto.SetHexStr row.sessionKey
  proof_eq : session._reconnectProof = reconnectProof

/-- The challenges of a connection, asked for and answered. -/
def challenges (c : Connection) : ℕ :=
  c.session._queryProcessor.countP Query.isChallenge + c.history.answers.countP Answer.isChallenge

variable (crypto) in
/-- What holds of a connection at any time. -/
structure Inv (c : Connection) : Prop where
  once : challenges c ≤ 1
  fresh : c.session._status = .STATUS_CHALLENGE → challenges c = 0
  realm : c.session._queryProcessor.countP Query.isRealmList ≤
    if c.session._status = .STATUS_WAITING_FOR_REALM_LIST then 1 else 0
  kept : ∀ a, .answer a ∈ c.history.since → a ∈ c.history.answers
  logon : c.session._status = .STATUS_LOGON_PROOF → ∃ row salt b,
    .answer (.LogonChallengeCallback (some row) salt b) ∈ c.history.since ∧ LogonLoaded crypto c.session row salt b
  reconnect : c.session._status = .STATUS_RECONNECT_PROOF → ∃ row reconnectProof,
    .answer (.ReconnectChallengeCallback (some row) reconnectProof) ∈ c.history.since ∧
      ReconnectLoaded crypto c.session row reconnectProof
  authed : c.session._status = .STATUS_AUTHED ∨
    c.session._status = .STATUS_WAITING_FOR_REALM_LIST → Authenticated crypto c.history.since

theorem Inv.congr (h : Inv crypto c) (hs : c'.session = c.session)
    (ha : c'.history.answers = c.history.answers) (hsince : c'.history.since = c.history.since) :
    Inv crypto c' := by
  obtain ⟨b, cl, act, s, hist⟩ := c
  obtain ⟨b', cl', act', s', hist'⟩ := c'
  dsimp only at hs ha hsince
  subst hs
  constructor
  · simpa only [challenges, ha] using h.once
  · simpa only [challenges, ha] using h.fresh
  · exact h.realm
  · simpa only [ha, hsince] using h.kept
  · simpa only [hsince] using h.logon
  · simpa only [hsince] using h.reconnect
  · simpa only [hsince] using h.authed

theorem Inv.of_closed (hst : c.session._status = .STATUS_CLOSED) (honce : challenges c ≤ 1)
    (hrealm : c.session._queryProcessor.countP Query.isRealmList ≤ 0)
    (hkept : ∀ a, .answer a ∈ c.history.since → a ∈ c.history.answers) : Inv crypto c where
  once := honce
  fresh := fun hf ↦ by rw [hst] at hf; cases hf
  realm := by rw [hst]; exact hrealm
  kept := hkept
  logon := fun hf ↦ by rw [hst] at hf; cases hf
  reconnect := fun hf ↦ by rw [hst] at hf; cases hf
  authed := fun hf ↦ by rw [hst] at hf; rcases hf with hf | hf <;> cases hf

theorem Inv.of_authed (hst : c.session._status = .STATUS_AUTHED) (honce : challenges c ≤ 1)
    (hrealm : c.session._queryProcessor.countP Query.isRealmList ≤ 0)
    (hkept : ∀ a, .answer a ∈ c.history.since → a ∈ c.history.answers)
    (hauth : Authenticated crypto c.history.since) : Inv crypto c where
  once := honce
  fresh := fun hf ↦ by rw [hst] at hf; cases hf
  realm := by rw [hst]; exact hrealm
  kept := hkept
  logon := fun hf ↦ by rw [hst] at hf; cases hf
  reconnect := fun hf ↦ by rw [hst] at hf; cases hf
  authed := fun _ ↦ hauth

/-- A challenge has been answered once the session has left `STATUS_CHALLENGE` and is not closed. -/
theorem Inv.one_le_answered (h : Inv crypto c) (h1 : c.session._status ≠ .STATUS_CHALLENGE)
    (h2 : c.session._status ≠ .STATUS_CLOSED) :
    1 ≤ c.history.answers.countP Answer.isChallenge := by
  have hmem : ∀ a, a.isChallenge = true → .answer a ∈ c.history.since →
      1 ≤ c.history.answers.countP Answer.isChallenge := fun a ha hs ↦
    List.countP_pos_iff.mpr ⟨a, h.kept a hs, ha⟩
  have hauth : Authenticated crypto c.history.since → 1 ≤ c.history.answers.countP Answer.isChallenge := by
    rintro (⟨row, salt, b, bytes, ha, _, _⟩ | ⟨row, r, bytes, ha, _, _⟩)
    · exact hmem _ rfl ha
    · exact hmem _ rfl ha
  cases hst : c.session._status with
  | STATUS_CHALLENGE => exact absurd hst h1
  | STATUS_LOGON_PROOF =>
    obtain ⟨row, salt, b, ha, _⟩ := h.logon hst
    exact hmem _ rfl ha
  | STATUS_RECONNECT_PROOF =>
    obtain ⟨row, r, ha, _⟩ := h.reconnect hst
    exact hmem _ rfl ha
  | STATUS_AUTHED => exact hauth (h.authed (.inl hst))
  | STATUS_WAITING_FOR_REALM_LIST => exact hauth (h.authed (.inr hst))
  | STATUS_CLOSED => exact absurd hst h2

/-- While a challenge is waiting for its answer, the session is closed and none has been answered. -/
theorem Inv.of_pending_challenge (h : Inv crypto c) {q : Query}
    (hq : q ∈ c.session._queryProcessor) (hch : q.isChallenge = true) :
    c.session._status = .STATUS_CLOSED ∧ c.history.answers.countP Answer.isChallenge = 0 := by
  have hpos : 1 ≤ c.session._queryProcessor.countP Query.isChallenge := List.countP_pos_iff.mpr ⟨q, hq, hch⟩
  have honce := h.once
  rw [challenges] at honce
  refine ⟨?_, by omega⟩
  by_contra hclosed
  by_cases hstart : c.session._status = .STATUS_CHALLENGE
  · have hfresh := h.fresh hstart
    rw [challenges] at hfresh
    omega
  · have := h.one_le_answered hstart hclosed
    omega

theorem Inv.waiting (h : Inv crypto c) {q : Query} (hq : q ∈ c.session._queryProcessor)
    (hrl : q.isRealmList = true) : c.session._status = .STATUS_WAITING_FOR_REALM_LIST := by
  have hpos : 1 ≤ c.session._queryProcessor.countP Query.isRealmList := List.countP_pos_iff.mpr ⟨q, hq, hrl⟩
  have hrealm := h.realm
  by_contra hne
  rw [if_neg hne] at hrealm
  omega

/-! ## Messages -/

namespace Connection

section

variable (crypto : Crypto) (c : Connection) (cmd : AuthCmd) (size : ℕ)

theorem handleMessage_session : (c.handleMessage crypto cmd size).session =
      (c.session.handle crypto c._readBuffer.GetReadPointer cmd).session := by
  rw [handleMessage]
  split <;> rfl

theorem handleMessage_answers : (c.handleMessage crypto cmd size).history.answers = c.history.answers := by
  rw [handleMessage]
  split <;> rfl

theorem handleMessage_since : (c.handleMessage crypto cmd size).history.since =
      if cmd.isChallenge then []
      else .message cmd c._readBuffer.GetReadPointer :: c.history.since := by
  rw [handleMessage]
  split <;> rfl

end

end Connection

/-- A challenge message closes the session and asks for an account, the first one of the connection. -/
theorem Inv.challenge (h : Inv crypto c) (hst : c.session._status = .STATUS_CHALLENGE)
    (query : Bytes → Query) (hquery : ∀ login, (query login).isChallenge = true)
    (hs : c'.session = (c.session.handleChallenge bytes query).session)
    (ha : c'.history.answers = c.history.answers) (hsince : c'.history.since = []) :
    Inv crypto c' := by
  obtain ⟨hclosed, hpending⟩ := AuthSession.handleChallenge_spec c.session bytes query
  have hfresh := h.fresh hst
  rw [challenges] at hfresh
  rw [← hs] at hclosed hpending
  have hrealm := h.realm
  rw [hst, if_neg AuthStatus.noConfusion] at hrealm
  refine .of_closed hclosed ?_ ?_ ?_
  · rcases hpending with hp | ⟨login, hp⟩
    · rw [challenges, ha, hp]
      omega
    · rw [challenges, ha, hp, List.countP_append, List.countP_singleton, if_pos (hquery login)]
      omega
  · rcases hpending with hp | ⟨login, hp⟩
    · rw [hp]
      exact hrealm
    · simpa [hp, (Query.not_isRealmList (hquery login))] using hrealm
  · rw [hsince]
    exact fun a ha ↦ absurd ha List.not_mem_nil

theorem Inv.proof (h : Inv crypto c) (hst : c.session._status = .STATUS_LOGON_PROOF ∨
      c.session._status = .STATUS_RECONNECT_PROOF) {e : Event} (he : ∀ a, e ≠ .answer a)
    (hq : c'.session._queryProcessor = c.session._queryProcessor)
    (ha : c'.history.answers = c.history.answers) (hsince : c'.history.since = e :: c.history.since)
    (hauth : c'.session._status = .STATUS_CLOSED ∨
      c'.session._status = .STATUS_AUTHED ∧ Authenticated crypto c'.history.since) :
    Inv crypto c' := by
  have hrealm := h.realm
  rw [if_neg (by rcases hst with hst | hst <;> (rw [hst]; exact AuthStatus.noConfusion)), ← hq]
    at hrealm
  have honce : challenges c' ≤ 1 := by
    rw [challenges, hq, ha]
    exact h.once
  have hkept : ∀ a, .answer a ∈ c'.history.since → a ∈ c'.history.answers := by
    rw [hsince, ha]
    intro a hmem
    rcases List.mem_cons.mp hmem with heq | hmem
    · exact absurd heq.symm (he a)
    · exact h.kept a hmem
  rcases hauth with hc | ⟨hc, hauth⟩
  · exact .of_closed hc honce hrealm hkept
  · exact .of_authed hc honce hrealm hkept hauth

theorem Inv.handleMessage (h : Inv crypto c) (hd : c.dispatch = .handle cmd size) :
    Inv crypto (c.handleMessage crypto cmd size) := by
  have hst := (dispatch_eq_handle hd).1
  have hs := Connection.handleMessage_session crypto c cmd size
  have ha := Connection.handleMessage_answers crypto c cmd size
  have hsince := Connection.handleMessage_since crypto c cmd size
  cases cmd with
  | AUTH_LOGON_CHALLENGE => exact h.challenge hst .logonChallenge (fun _ ↦ rfl) hs ha hsince
  | AUTH_RECONNECT_CHALLENGE => exact h.challenge hst .reconnectChallenge (fun _ ↦ rfl) hs ha hsince
  | AUTH_LOGON_PROOF =>
    obtain ⟨hq, hauth⟩ := AuthSession.handleLogonProof_spec crypto c.session
      c._readBuffer.GetReadPointer
    refine h.proof (.inl hst) (fun _ ↦ Event.noConfusion) (hs ▸ hq) ha hsince ?_
    rw [hs]
    refine hauth.imp id fun ⟨hst', hM, htoken⟩ ↦ ⟨hst', ?_⟩
    obtain ⟨row, salt, b, hrow, hl⟩ := h.logon hst
    rw [hsince]
    refine .inl ⟨row, salt, b, _, List.mem_cons_of_mem _ hrow, List.mem_cons_self, ?_, ?_⟩
    · rw [hl.login, hl.s_eq, hl.B_eq, hl.v_eq, hl.b_eq] at hM
      exact hM
    · simpa [hl.token] using htoken
  | AUTH_RECONNECT_PROOF =>
    obtain ⟨hq, hauth⟩ := AuthSession.handleReconnectProof_spec crypto c.session
      c._readBuffer.GetReadPointer
    refine h.proof (.inr hst) (fun _ ↦ Event.noConfusion) (hs ▸ hq) ha hsince ?_
    rw [hs]
    refine hauth.imp id fun ⟨hst', hdigest⟩ ↦ ⟨hst', ?_⟩
    obtain ⟨row, r, hrow, hl⟩ := h.reconnect hst
    rw [hsince]
    refine .inr ⟨row, r, _, List.mem_cons_of_mem _ hrow, List.mem_cons_self, ?_⟩
    rw [hl.login, hl.proof_eq, hl.K_eq] at hdigest
    exact hdigest
  | REALM_LIST =>
    have hst' : (c.handleMessage crypto .REALM_LIST size).session._status =
        .STATUS_WAITING_FOR_REALM_LIST := by rw [hs]; rfl
    have hq : (c.handleMessage crypto .REALM_LIST size).session._queryProcessor =
        c.session._queryProcessor ++ [.realmList c.session._accountInfo.Id] := by rw [hs]; rfl
    constructor
    · rw [challenges, ha, hq, List.countP_append]
      exact h.once
    · exact fun hf ↦ by rw [hst'] at hf; cases hf
    · have hrealm := h.realm
      rw [show c.session._status = .STATUS_AUTHED from hst, if_neg AuthStatus.noConfusion] at hrealm
      rw [hst', hq, List.countP_append, if_pos rfl]
      exact Nat.succ_le_succ hrealm
    · rw [hsince, ha]
      intro a hmem
      rcases List.mem_cons.mp hmem with heq | hmem
      · cases heq
      · exact h.kept a hmem
    · exact fun hf ↦ by rw [hst'] at hf; cases hf
    · exact fun hf ↦ by rw [hst'] at hf; cases hf
    · intro _
      rw [hsince]
      exact (h.authed (.inl hst)).cons _

theorem Inv.readHandler (h : Inv crypto c) : Inv crypto (c.readHandler crypto) := by
  rw [Connection.readHandler]
  cases hd : c.dispatch with
  | wait => exact h.congr rfl rfl rfl
  | ignore => exact h.congr rfl rfl rfl
  | reject => exact h.congr rfl rfl rfl
  | handle cmd size => exact h.handleMessage hd

/-! ## Callbacks -/

namespace Connection

section

variable (crypto : Crypto) (ip : Bytes) (c : Connection) (a : Answer)

theorem answer_parts : (c.answer crypto ip a).session = c.session.answer crypto ip a ∧
    (c.answer crypto ip a).history.answers = c.history.answers ++ [a] ∧
      (c.answer crypto ip a).history.since = .answer a :: c.history.since := by
  cases a with
  | CheckIpCallback result =>
    rw [answer]
    split <;> exact ⟨rfl, rfl, rfl⟩
  | LogonChallengeCallback result salt b => exact ⟨rfl, rfl, rfl⟩
  | ReconnectChallengeCallback result r => exact ⟨rfl, rfl, rfl⟩
  | RealmListCallback => exact ⟨rfl, rfl, rfl⟩

theorem answer_session : (c.answer crypto ip a).session = c.session.answer crypto ip a := (answer_parts ..).1

theorem answer_answers : (c.answer crypto ip a).history.answers = c.history.answers ++ [a] := (answer_parts ..).2.1

theorem answer_since : (c.answer crypto ip a).history.since = .answer a :: c.history.since := (answer_parts ..).2.2

end

end Connection

namespace AuthSession

/-- A callback that finds nothing, or an account that is refused, leaves the status as it is; otherwise
the account is let in and loaded. -/
theorem logonChallengeCallback_spec (crypto : Crypto) (ip : Bytes) (session : AuthSession)
    (result : Option LogonRow) (salt b : ℕ) :
    (session.LogonChallengeCallback crypto ip result salt b)._status = session._status ∨
      ∃ row, result = some row ∧ ¬ Barred ip row.toAccountRow ∧
        (session.LogonChallengeCallback crypto ip result salt b)._status = .STATUS_LOGON_PROOF ∧
        LogonLoaded crypto (session.LogonChallengeCallback crypto ip result salt b) row salt b := by
  cases result with
  | none => exact .inl rfl
  | some row =>
    rw [LogonChallengeCallback]
    dsimp only
    split
    · exact .inl rfl
    rename_i hip
    split
    · exact .inl rfl
    split
    · exact .inl rfl
    rename_i hban
    dsimp only
    split
    · refine .inr ⟨row, rfl, ?_, rfl, ⟨rfl, rfl, rfl, rfl, rfl, rfl⟩⟩
      rintro (hbar | hbar)
      · exact hip hbar
      · exact hban hbar
    · exact .inl rfl

theorem callback_queryProcessor (crypto : Crypto) (ip : Bytes) (session : AuthSession) (a : Answer) :
    (session.callback crypto ip a)._queryProcessor = session._queryProcessor := by
  cases a with
  | CheckIpCallback result => rfl
  | LogonChallengeCallback result salt b =>
    cases result with
    | none => rfl
    | some row =>
      rw [callback, LogonChallengeCallback]
      split
      · rfl
      split
      · rfl
      split <;> rfl
  | ReconnectChallengeCallback result r => cases result <;> rfl
  | RealmListCallback => rfl

end AuthSession

theorem countP_eraseP {pending : List Query} {a : Answer} (h : pending.any a.isFor = true)
    (p : Query → Bool) (r : Bool) (hp : ∀ q, a.isFor q = true → p q = r) :
    (pending.eraseP a.isFor).countP p + (if r = true then 1 else 0) = pending.countP p := by
  obtain ⟨q, hq, hfor⟩ := List.any_eq_true.mp h
  obtain ⟨q', l₁, l₂, _, hfor', hl, herase⟩ := List.exists_of_eraseP hq hfor
  rw [herase, hl, List.countP_append, List.countP_append, List.countP_cons, hp q' hfor']
  omega

theorem Inv.answer (h : Inv crypto c) {a : Answer}
    (hfor : c.session._queryProcessor.any a.isFor = true) : Inv crypto (c.answer crypto ip a) := by
  have hs := Connection.answer_session crypto ip c a
  have ha := Connection.answer_answers crypto ip c a
  have hsince := Connection.answer_since crypto ip c a
  have hq : (c.answer crypto ip a).session._queryProcessor = c.session._queryProcessor.eraseP a.isFor := by
    rw [hs]
    exact AuthSession.callback_queryProcessor crypto ip _ a
  have hch := countP_eraseP hfor Query.isChallenge a.isChallenge fun q hq ↦ (Answer.kind_of_isFor hq).1
  have hrl := countP_eraseP hfor Query.isRealmList a.isRealmList fun q hq ↦ (Answer.kind_of_isFor hq).2
  have hchallenges : challenges (c.answer crypto ip a) = challenges c := by
    rw [challenges, challenges, ha, hq, List.countP_append, List.countP_singleton, ← hch]
    omega
  have hkept : ∀ a', .answer a' ∈ (c.answer crypto ip a).history.since →
      a' ∈ (c.answer crypto ip a).history.answers := by
    intro a' hmem
    rw [hsince] at hmem
    rw [ha, List.mem_append, List.mem_singleton]
    rcases List.mem_cons.mp hmem with heq | hmem
    · exact .inr (Event.answer.inj heq)
    · exact .inl (h.kept a' hmem)
  have honce : challenges (c.answer crypto ip a) ≤ 1 := hchallenges ▸ h.once
  obtain ⟨q, hqmem, hqfor⟩ := List.any_eq_true.mp hfor
  -- a challenge callback finds the session closed
  have hclosed : a.isChallenge = true → c.session._status = .STATUS_CLOSED := fun hach ↦
    (h.of_pending_challenge hqmem ((Answer.kind_of_isFor hqfor).1.trans hach)).1
  have hle : a.isRealmList = false → (c.answer crypto ip a).session._queryProcessor.countP
      Query.isRealmList ≤ c.session._queryProcessor.countP Query.isRealmList := fun _ ↦ by
    rw [hq]
    omega
  have hnone : a.isChallenge = true → (c.answer crypto ip a).session._queryProcessor.countP
      Query.isRealmList ≤ 0 := fun hach ↦ by
    have hrealm := h.realm
    rw [hclosed hach, if_neg AuthStatus.noConfusion] at hrealm
    rw [hq]
    omega
  cases a with
  | CheckIpCallback result =>
    have hst : (c.answer crypto ip (.CheckIpCallback result)).session._status = c.session._status := by rw [hs]; rfl
    constructor
    · exact honce
    · rw [hst, hchallenges]
      exact h.fresh
    · rw [hst]
      exact Nat.le_trans (hle rfl) h.realm
    · exact hkept
    · rw [hst, hsince, hs]
      intro hf
      obtain ⟨row, salt, b, hmem, hl⟩ := h.logon hf
      exact ⟨row, salt, b, List.mem_cons_of_mem _ hmem, ⟨hl.login, hl.s_eq, hl.v_eq, hl.b_eq, hl.B_eq, hl.token⟩⟩
    · rw [hst, hsince, hs]
      intro hf
      obtain ⟨row, r, hmem, hl⟩ := h.reconnect hf
      exact ⟨row, r, List.mem_cons_of_mem _ hmem, ⟨hl.login, hl.K_eq, hl.proof_eq⟩⟩
    · rw [hst, hsince]
      exact fun hf ↦ (h.authed hf).cons _
  | LogonChallengeCallback result salt b =>
    rcases AuthSession.logonChallengeCallback_spec crypto ip { c.session with
          _queryProcessor := c.session._queryProcessor.eraseP
            (Answer.LogonChallengeCallback result salt b).isFor }
        result salt b with hst | ⟨row, rfl, _, hst, hl⟩
    · exact .of_closed (hs ▸ hst.trans (hclosed rfl)) honce (hnone rfl) hkept
    · have hst' : (c.answer crypto ip (.LogonChallengeCallback (some row) salt b)).session._status =
          .STATUS_LOGON_PROOF := by rw [hs]; exact hst
      refine ⟨honce, ?_, Nat.le_trans (hnone rfl) (Nat.zero_le _), hkept, ?_, ?_, ?_⟩
      · exact fun hf ↦ by rw [hst'] at hf; cases hf
      · intro _
        rw [hsince, hs]
        exact ⟨row, salt, b, List.mem_cons_self, hl⟩
      · exact fun hf ↦ by rw [hst'] at hf; cases hf
      · exact fun hf ↦ by rw [hst'] at hf; rcases hf with hf | hf <;> cases hf
  | ReconnectChallengeCallback result r =>
    cases result with
    | none => exact .of_closed (hs ▸ hclosed rfl) honce (hnone rfl) hkept
    | some row =>
      have hst' : (c.answer crypto ip (.ReconnectChallengeCallback (some row) r)).session._status =
          .STATUS_RECONNECT_PROOF := by rw [hs]; rfl
      refine ⟨honce, ?_, Nat.le_trans (hnone rfl) (Nat.zero_le _), hkept, ?_, ?_, ?_⟩
      · exact fun hf ↦ by rw [hst'] at hf; cases hf
      · exact fun hf ↦ by rw [hst'] at hf; cases hf
      · intro _
        rw [hsince, hs]
        exact ⟨row, r, List.mem_cons_self, ⟨rfl, rfl, rfl⟩⟩
      · exact fun hf ↦ by rw [hst'] at hf; rcases hf with hf | hf <;> cases hf
  | RealmListCallback =>
    have hwait := h.waiting hqmem (Answer.kind_of_isFor hqfor).2
    have hrealm := h.realm
    rw [if_pos hwait] at hrealm
    refine .of_authed (by rw [hs]; rfl) honce ?_ hkept ?_
    · rw [hq]
      have h1 : (if Answer.RealmListCallback.isRealmList = true then 1 else 0) = 1 := rfl
      omega
    · rw [hsince]
      exact (h.authed (.inr hwait)).cons _

theorem Inv.start : Inv crypto Connection.start where
  once := Nat.zero_le _
  fresh := fun _ ↦ rfl
  realm := Nat.zero_le _
  kept := fun _ ha ↦ absurd ha List.not_mem_nil
  logon := fun hf ↦ by cases hf
  reconnect := fun hf ↦ by cases hf
  authed := fun hf ↦ by rcases hf with hf | hf <;> cases hf

theorem Inv.next (h : Inv crypto c) {call : Connection.Call}
    (hn : c.next crypto ip call = some c') : Inv crypto c' := by
  cases call with
  | answer a =>
    obtain ⟨⟨_, _, hfor⟩, rfl⟩ := Option.ite_none_right_eq_some.mp hn |>.imp_right Option.some.inj
    exact h.answer hfor
  | received bytes =>
    obtain ⟨_, rfl⟩ := Option.ite_none_right_eq_some.mp hn |>.imp_right Option.some.inj
    exact h.congr rfl rfl rfl
  | readError =>
    obtain ⟨_, rfl⟩ := Option.ite_none_right_eq_some.mp hn |>.imp_right Option.some.inj
    exact h.congr rfl rfl rfl
  | readHandler =>
    obtain ⟨_, rfl⟩ := Option.ite_none_right_eq_some.mp hn |>.imp_right Option.some.inj
    exact h.readHandler

theorem inv_of_reaches {ok : Connection → Connection.Call → Prop}
    (h : (authServer crypto ip).Reaches ok c) : Inv crypto c :=
  h.invariant Inv.start fun _ _ _ hinv _ hn ↦ Inv.next hinv hn

/-! ## Barred accounts -/

/-- Past its challenge, a session has been answered with accounts that are not barred. -/
def Cleared (ip : Bytes) (c : Connection) : Prop :=
  c.session._status ≠ .STATUS_CHALLENGE → c.session._status ≠ .STATUS_CLOSED →
    ∀ a ∈ c.history.answers, ∀ row, a.account = some row → ¬ Barred ip row

/-- A reconnect challenge is answered with an account that a logon challenge would not refuse as
barred. -/
def LetsIn (ip : Bytes) (_ : Connection) : Connection.Call → Prop
  | .answer (.ReconnectChallengeCallback (some row) _) => ¬ Barred ip row.toAccountRow
  | _ => True

theorem Cleared.handleMessage (h : Cleared ip c) (hd : c.dispatch = .handle cmd size) :
    Cleared ip (c.handleMessage crypto cmd size) := by
  have hst := (dispatch_eq_handle hd).1
  have hs := Connection.handleMessage_session crypto c cmd size
  intro h1 h2
  rw [Connection.handleMessage_answers]
  cases cmd with
  | AUTH_LOGON_CHALLENGE =>
    exact absurd (hs ▸ (AuthSession.handleChallenge_spec _ _ _).1) h2
  | AUTH_RECONNECT_CHALLENGE =>
    exact absurd (hs ▸ (AuthSession.handleChallenge_spec _ _ _).1) h2
  | AUTH_LOGON_PROOF =>
    refine h ?_ ?_ <;> (rw [hst]; exact AuthStatus.noConfusion)
  | AUTH_RECONNECT_PROOF =>
    refine h ?_ ?_ <;> (rw [hst]; exact AuthStatus.noConfusion)
  | REALM_LIST =>
    refine h ?_ ?_ <;> (rw [hst]; exact AuthStatus.noConfusion)

theorem Cleared.readHandler (h : Cleared ip c) : Cleared ip (c.readHandler crypto) := by
  rw [Connection.readHandler]
  cases hd : c.dispatch with
  | wait => exact h
  | ignore => exact h
  | reject => exact h
  | handle cmd size => exact h.handleMessage hd

theorem Cleared.answer (h : Cleared ip c) (hinv : Inv crypto c) {a : Answer}
    (hfor : c.session._queryProcessor.any a.isFor = true) (ha : LetsIn ip c (.answer a)) :
    Cleared ip (c.answer crypto ip a) := by
  have hs := Connection.answer_session crypto ip c a
  obtain ⟨q, hqmem, hqfor⟩ := List.any_eq_true.mp hfor
  intro h1 h2 a' ha' row hrow
  rw [Connection.answer_answers, List.mem_append, List.mem_singleton] at ha'
  by_cases hch : a.isChallenge = true
  · obtain ⟨hclosed, hzero⟩ := hinv.of_pending_challenge hqmem
      ((Answer.kind_of_isFor hqfor).1.trans hch)
    rcases ha' with ha' | rfl
    · exact absurd (Answer.isChallenge_of_account hrow) (List.countP_eq_zero.mp hzero a' ha')
    cases a' with
    | CheckIpCallback result => cases hrow
    | RealmListCallback => cases hrow
    | LogonChallengeCallback result salt b =>
      rcases AuthSession.logonChallengeCallback_spec crypto ip { c.session with
            _queryProcessor := c.session._queryProcessor.eraseP
              (Answer.LogonChallengeCallback result salt b).isFor }
          result salt b with hst | ⟨row', rfl, hbar, _⟩
      · exact absurd (hs ▸ hst.trans hclosed) h2
      · rw [← Option.some.inj hrow]
        exact hbar
    | ReconnectChallengeCallback result r =>
      cases result with
      | none => cases hrow
      | some row' =>
        rw [← Option.some.inj hrow]
        exact ha
  · rcases ha' with ha' | rfl
    · cases a with
      | CheckIpCallback result =>
        rw [hs] at h1 h2
        exact h h1 h2 a' ha' row hrow
      | RealmListCallback =>
        have hwait := hinv.waiting hqmem (Answer.kind_of_isFor hqfor).2
        refine h ?_ ?_ a' ha' row hrow <;> (rw [hwait]; exact AuthStatus.noConfusion)
      | LogonChallengeCallback result salt b => exact absurd rfl hch
      | ReconnectChallengeCallback result r => exact absurd rfl hch
    · exact absurd (Answer.isChallenge_of_account hrow) hch

theorem Cleared.next (h : Cleared ip c) (hinv : Inv crypto c) {call : Connection.Call}
    (hcall : LetsIn ip c call) (hn : c.next crypto ip call = some c') : Cleared ip c' := by
  cases call with
  | answer a =>
    obtain ⟨⟨_, _, hfor⟩, rfl⟩ := Option.ite_none_right_eq_some.mp hn |>.imp_right Option.some.inj
    exact h.answer hinv hfor hcall
  | received bytes =>
    obtain ⟨_, rfl⟩ := Option.ite_none_right_eq_some.mp hn |>.imp_right Option.some.inj
    exact h
  | readError =>
    obtain ⟨_, rfl⟩ := Option.ite_none_right_eq_some.mp hn |>.imp_right Option.some.inj
    exact h
  | readHandler =>
    obtain ⟨_, rfl⟩ := Option.ite_none_right_eq_some.mp hn |>.imp_right Option.some.inj
    exact h.readHandler

theorem cleared_of_reaches (h : (authServer crypto ip).Reaches (LetsIn ip) c) : Cleared ip c := by
  have hboth : Inv crypto c ∧ Cleared ip c := by
    refine h.invariant (P := fun c ↦ Inv crypto c ∧ Cleared ip c) ⟨Inv.start, fun h1 ↦ absurd rfl h1⟩ ?_
    rintro c call c' ⟨hinv, hcl⟩ hcall hn
    exact ⟨hinv.next hn, hcl.next hinv hcall hn⟩
  exact hboth.2

/-! ## The state machine -/

/-- The message at the read pointer has a command for another status. -/
def Misfit (c : Connection) : Prop := c._closed = false ∧ c.activity = .handling ∧ c._readBuffer.GetActiveSize ≠ 0 ∧
    ∃ cmd, Handlers (byteAt c._readBuffer.GetReadPointer 0) = some cmd ∧ c.session._status ≠ cmd.status

variable (crypto ip) in
/-- The realm list is only asked for after a proof, and a message for another status closes the
connection and changes nothing of the session, for good. -/
def StatusKept (c : Connection) : Prop :=
  (∀ id, .realmList id ∈ c.session._queryProcessor → Authenticated crypto c.history.since) ∧
    (Misfit c → ∃ c', c.next crypto ip .readHandler = some c' ∧ c'._closed = true ∧
      c'.session = c.session ∧ ∀ call, c'.next crypto ip call = none)

/-- No account that is barred is let in. -/
def NoneBarred (ip : Bytes) (c : Connection) : Prop := c.session._status = .STATUS_AUTHED →
    ∀ a ∈ c.history.answers, ∀ row, a.account = some row → ¬ Barred ip row

theorem next_of_closed (h : c._closed = true) (call : Connection.Call) : c.next crypto ip call = none := by
  cases call <;> exact if_neg fun hh ↦ by rw [h] at hh; cases hh.1

theorem Misfit.closes (h : Misfit c) : c.next crypto ip .readHandler = some c.CloseSocket := by
  obtain ⟨hopen, hact, hactive, cmd, hcmd, hst⟩ := h
  have hd : c.dispatch = .reject := by
    simp [Connection.dispatch, dispatch, hactive, hcmd, hst]
  refine (if_pos ⟨hopen, hact⟩).trans (congrArg some ?_)
  rw [Connection.readHandler, hd]

/-- **The status does what it is for, in every run, and lets in no barred account in those runs in which
reconnect challenges are not answered with one.** -/
theorem authenticated_of_reaches (crypto : Crypto) (ip : Bytes) :
    (∀ c, (authServer crypto ip).Reachable c → StatusKept crypto ip c) ∧
      ∀ c, (authServer crypto ip).Reaches (LetsIn ip) c → NoneBarred ip c := by
  refine ⟨fun c h ↦ ⟨fun id hid ↦ ?_, fun hm ↦ ?_⟩, fun c h hst ↦ ?_⟩
  · have hinv := inv_of_reaches h
    exact hinv.authed (.inr (hinv.waiting hid rfl))
  · exact ⟨_, hm.closes, rfl, rfl, next_of_closed rfl⟩
  · refine cleared_of_reaches h ?_ ?_ <;> (rw [hst]; exact AuthStatus.noConfusion)

/-! ## Two runs -/

/-- Given functions for the runs below: all numbers are 1, and all digests are 0. -/
def plainCrypto : Crypto where
  SetHexStr := fun _ ↦ 1
  verifier := fun _ _ ↦ 1
  publicKey := fun _ _ ↦ 1
  isZeroModN := fun A ↦ A.all (· == 0)
  sessionKey := fun _ _ _ _ ↦ 1
  proof := fun _ _ _ _ _ ↦ List.replicate 20 0
  reconnectDigest := fun _ _ _ _ ↦ List.replicate 20 0
  GenerateToken := fun _ ↦ 0
  Utf8ToUpperOnlyLatin := id

/-- A challenge message, for a client of build 12340 and the account `A`. -/
def challengeBytes (cmd : UInt8) : Bytes :=
  [cmd, 0, 31, 0] ++ List.replicate 7 0 ++ [0x34, 0x30] ++ List.replicate 20 0 ++ [1, 65]

/-- An account, and whether it is banned. -/
def accountRow (banned : Bool) : AccountRow := ⟨1, [65], false, [], [], banned, false⟩

/-- A logon up to the query for the realm list. -/
def logonRun : List Connection.Call :=
  [.answer (.CheckIpCallback []), .received (challengeBytes 0x00), .readHandler, .readHandler,
   .answer (.LogonChallengeCallback (some ⟨accountRow false, [], [], [], []⟩) 1 1),
   .received (0x01 :: 1 :: List.replicate 73 0), .readHandler, .readHandler,
   .received (0x10 :: List.replicate 4 0), .readHandler]

theorem authenticated_of_reaches_logonRun :
    ∃ c, (authServer plainCrypto []).Reachable c ∧ c.session._status ≠ .STATUS_AUTHED ∧
      Authenticated plainCrypto c.history.since := by
  obtain ⟨c, hc, hq⟩ := (authServer plainCrypto []).exists_reachable logonRun
    (fun c ↦ c.session._queryProcessor.any Query.isRealmList) (by decide +kernel)
  obtain ⟨q, hmem, hrl⟩ := List.any_eq_true.mp hq
  cases q with
  | realmList id =>
    refine ⟨c, hc, ?_, ((authenticated_of_reaches plainCrypto []).1 c hc).1 id hmem⟩
    rw [(inv_of_reaches hc).waiting hmem rfl]
    simp
  | ipInfo => cases hrl
  | logonChallenge login => cases hrl
  | reconnectChallenge login => cases hrl

/-- A banned account reconnects. -/
def reconnectRun : List Connection.Call :=
  [.answer (.CheckIpCallback []), .received (challengeBytes 0x02), .readHandler, .readHandler,
   .answer (.ReconnectChallengeCallback (some ⟨accountRow true, []⟩) 1),
   .received (0x03 :: List.replicate 57 0), .readHandler]

/-- A reconnect lets a banned account in. -/
theorem not_noneBarred : ¬ ∀ crypto ip c, (authServer crypto ip).Reachable c →
    StatusKept crypto ip c ∧ NoneBarred ip c := by
  intro hall
  obtain ⟨c, hc, hw⟩ := (authServer plainCrypto []).exists_reachable reconnectRun
    (fun c ↦ decide (c.session._status = .STATUS_AUTHED) && c.history.answers.any fun a ↦ a.account.any fun row ↦
      decide (Barred [] row)) (by decide +kernel)
  obtain ⟨hst, hans⟩ := Bool.and_eq_true_iff.mp hw
  obtain ⟨a, hmem, ha⟩ := List.any_eq_true.mp hans
  obtain ⟨row, hrow, hbar⟩ := (Option.any_eq_true _ _).mp ha
  exact (hall plainCrypto [] c hc).2 (of_decide_eq_true hst) a hmem row hrow (of_decide_eq_true hbar)

end Gundrak
