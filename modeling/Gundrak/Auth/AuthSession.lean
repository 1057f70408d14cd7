import Gundrak.Auth.MessageBuffer
import Gundrak.Util.Int32
import Gundrak.Util.Machine

/-!
# A session of the authentication server

A client asks for a challenge, either to log on or to reconnect, answers it with a proof and may then ask
for the list of the realms.  What a session does with a message depends on its `AuthStatus`: every command
is for one status, and its handler moves the session to another, or to `STATUS_CLOSED` if the message is
not good.  A challenge and the realm list need the database, so their handlers leave a query behind; the
callback that gets the answer moves the session on.

`ReadHandler` runs each time some bytes have come in.  One turn of its loop is one call here
(`Connection.readHandler`), since the loop is what the properties are about; the callbacks come between
two runs of it.  SHA1, the numbers of SRP6 and the token of the authenticator are functions that are
given (`Crypto`).  A session handles at most one logon proof, so the time goes into `GenerateToken`.
What is sent to the client is left out, and so is what is written to the database.
-/

namespace Gundrak

/-- A block of bytes, or a `std::string`. -/
abbrev Bytes := List UInt8

/-- `AuthStatus`. -/
inductive AuthStatus where
  | STATUS_CHALLENGE
  | STATUS_LOGON_PROOF
  | STATUS_RECONNECT_PROOF
  | STATUS_AUTHED
  | STATUS_WAITING_FOR_REALM_LIST
  | STATUS_CLOSED
  deriving DecidableEq

/-- The commands of `eAuthCmd` that have a handler. -/
inductive AuthCmd where
  | AUTH_LOGON_CHALLENGE
  | AUTH_LOGON_PROOF
  | AUTH_RECONNECT_CHALLENGE
  | AUTH_RECONNECT_PROOF
  | REALM_LIST
  deriving DecidableEq

/-- `Handlers.find`. -/
def Handlers (cmd : UInt8) : Option AuthCmd :=
  if cmd = 0x00 then some .AUTH_LOGON_CHALLENGE
  else if cmd = 0x01 then some .AUTH_LOGON_PROOF
  else if cmd = 0x02 then some .AUTH_RECONNECT_CHALLENGE
  else if cmd = 0x03 then some .AUTH_RECONNECT_PROOF
  else if cmd = 0x10 then some .REALM_LIST
  else none

/-- The status a command is for. -/
def AuthCmd.status : AuthCmd → AuthStatus
  | .AUTH_LOGON_CHALLENGE => .STATUS_CHALLENGE
  | .AUTH_LOGON_PROOF => .STATUS_LOGON_PROOF
  | .AUTH_RECONNECT_CHALLENGE => .STATUS_CHALLENGE
  | .AUTH_RECONNECT_PROOF => .STATUS_RECONNECT_PROOF
  | .REALM_LIST => .STATUS_AUTHED

/-- How many bytes a message has; for a challenge, how many until its own size is known. -/
def AuthCmd.packetSize : AuthCmd → ℕ
  | .AUTH_LOGON_CHALLENGE => 4
  | .AUTH_LOGON_PROOF => 75
  | .AUTH_RECONNECT_CHALLENGE => 4
  | .AUTH_RECONNECT_PROOF => 58
  | .REALM_LIST => 5

/-- The command is one of the two challenges. -/
def AuthCmd.isChallenge : AuthCmd → Bool
  | .AUTH_LOGON_CHALLENGE | .AUTH_RECONNECT_CHALLENGE => true
  | _ => false

/-- `MAX_ACCEPTED_CHALLENGE_SIZE`. -/
def MAX_ACCEPTED_CHALLENGE_SIZE : ℕ := 51

/-! ## Reading messages -/

/-- The byte at an offset. -/
def byteAt (bytes : Bytes) (offset : ℕ) : UInt8 := bytes.getD offset 0

/-- The `uint16` at an offset. -/
def uint16At (bytes : Bytes) (offset : ℕ) : ℕ := (byteAt bytes offset).toNat + 256 * (byteAt bytes (offset + 1)).toNat

/-- Some bytes from an offset on. -/
def slice (bytes : Bytes) (offset size : ℕ) : Bytes := (bytes.drop offset).take size

/-- The white space of `isspace`. -/
def isSpace (x : UInt8) : Bool := x = 32 ∨ (9 ≤ x ∧ x ≤ 13)

/-- `atoi`: a number after white space and a sign, up to the first character that is no digit. -/
def atoi (token : Bytes) : ℤ :=
  let digits (l : Bytes) : ℕ := (l.takeWhile fun x ↦ decide (48 ≤ x ∧ x ≤ 57)).foldl
    (fun n x ↦ 10 * n + (x.toNat - 48)) 0
  match token.dropWhile isSpace with
  | [] => 0
  | x :: l => if x = 45 then -(digits l) else if x = 43 then digits l else digits (x :: l)

/-- What is not computed here. -/
structure Crypto where
  /-- `BigNumber::SetHexStr`. -/
  SetHexStr : Bytes → ℕ
  /-- The `v` that `SetVSFields` makes from the password hash and the new salt `s`. -/
  verifier : Bytes → ℕ → ℕ
  /-- `B`, from `v` and `b`. -/
  publicKey : ℕ → ℕ → ℕ
  /-- `(A % N).IsZero()`. -/
  isZeroModN : Bytes → Bool
  /-- `K`, from `A`, `v`, `b` and `B`. -/
  sessionKey : Bytes → ℕ → ℕ → ℕ → ℕ
  /-- The 20 bytes of `M`, from the login, `s`, `A`, `B` and `K`. -/
  proof : Bytes → ℕ → Bytes → ℕ → ℕ → Bytes
  /-- The digest of a reconnect proof, from the login, `R1`, `_reconnectProof` and `K`. -/
  reconnectDigest : Bytes → Bytes → ℕ → ℕ → Bytes
  /-- `TOTP::GenerateToken`, at the time of the logon proof. -/
  GenerateToken : Bytes → ℕ
  /-- `Utf8ToUpperOnlyLatin`. -/
  Utf8ToUpperOnlyLatin : Bytes → Bytes

/-- The first columns of both challenge queries. -/
structure AccountRow where
  id : UInt32
  username : Bytes
  locked : Bool
  lock_country : Bytes
  last_ip : Bytes
  banned : Bool
  permanentlyBanned : Bool
  deriving DecidableEq

/-- A row of `LOGIN_SEL_LOGONCHALLENGE`. -/
structure LogonRow extends AccountRow where
  token_key : Bytes
  sha_pass_hash : Bytes
  v : Bytes
  s : Bytes
  deriving DecidableEq

/-- A row of `LOGIN_SEL_RECONNECTCHALLENGE`. -/
structure ReconnectRow extends AccountRow where
  sessionKey : Bytes
  deriving DecidableEq

/-- `AccountInfo`. -/
structure AccountInfo where
  Id : UInt32
  Login : Bytes
  IsLockedToIP : Bool
  LockCountry : Bytes
  LastIP : Bytes
  IsBanned : Bool
  IsPermanenetlyBanned : Bool

/-- A query that has not been answered. -/
inductive Query where
  | ipInfo
  | logonChallenge (login : Bytes)
  | reconnectChallenge (login : Bytes)
  | realmList (id : UInt32)

/-- The callback of a query: the result, and the random numbers it draws. -/
inductive Answer where
  | CheckIpCallback (result : List (Bool × Bytes))
  | LogonChallengeCallback (result : Option LogonRow) (salt b : ℕ)
  | ReconnectChallengeCallback (result : Option ReconnectRow) (reconnectProof : ℕ)
  | RealmListCallback
  deriving DecidableEq

/-- The answer is for this query. -/
def Answer.isFor : Answer → Query → Bool
  | .CheckIpCallback _, .ipInfo => true
  | .LogonChallengeCallback _ _ _, .logonChallenge _ => true
  | .ReconnectChallengeCallback _ _, .reconnectChallenge _ => true
  | .RealmListCallback, .realmList _ => true
  | _, _ => false

/-- The members of `AuthSession`. -/
structure AuthSession where
  _status : AuthStatus
  _accountInfo : AccountInfo
  _tokenKey : Bytes
  s : ℕ
  v : ℕ
  b : ℕ
  B : ℕ
  K : ℕ
  _reconnectProof : ℕ
  _ipCountry : Bytes
  _build : ℕ
  _expversion : UInt8
  _queryProcessor : List Query

/-- What a handler leaves: what it returns, the session, and how many bytes it takes from the buffer
itself. -/
structure Handled where
  ok : Bool
  session : AuthSession
  read : ℕ

/-- `_expversion` for a build: `POST_BC_EXP_FLAG`, `PRE_BC_EXP_FLAG` or `NO_VALID_EXP_FLAG`. -/
def expversionOf (build : ℕ) : UInt8 :=
  if build ∈ [15595, 14545, 13623, 13930, 12340, 11723, 11403, 11159, 10505, 9947, 8606] then 2
  else if build ∈ [6141, 6005, 5875] then 1
  else 0

namespace AuthSession

variable (crypto : Crypto) (ip : Bytes) (session : AuthSession) (bytes : Bytes)

/-- A session after `Start`. -/
def start : AuthSession where
  _status := .STATUS_CHALLENGE
  _accountInfo := ⟨0, [], false, [], [], false, false⟩
  _tokenKey := []
  s := 0
  v := 0
  b := 0
  B := 0
  K := 0
  _reconnectProof := 0
  _ipCountry := []
  _build := 0
  _expversion := 0
  _queryProcessor := [.ipInfo]

/-! ## The handlers -/

/-- What `HandleLogonChallenge` and `HandleReconnectChallenge` do; they differ in the query. -/
def handleChallenge (query : Bytes → Query) : Handled :=
  if sizeSub (uint16At bytes 2) 30 ≠ (byteAt bytes 33).toNat then
    ⟨false, { session with _status := .STATUS_CLOSED }, 0⟩
  else
    let build := uint16At bytes 11
    let login := slice bytes 34 (byteAt bytes 33).toNat
    ⟨true, { session with
      _status := .STATUS_CLOSED
      _build := build
      _expversion := expversionOf build
      _queryProcessor := session._queryProcessor ++ [query login] }, 0⟩

/-- `AuthSession::HandleLogonChallenge`. -/
def HandleLogonChallenge : Handled := handleChallenge session bytes .logonChallenge

/-- `AuthSession::HandleReconnectChallenge`. -/
def HandleReconnectChallenge : Handled := handleChallenge session bytes .reconnectChallenge

/-- `AuthSession::HandleLogonProof` once `M` agrees: the token, and the end. -/
def checkToken : Handled :=
  if byteAt bytes 74 &&& 0x04 ≠ 0 ∨ session._tokenKey ≠ [] then
    let size := (byteAt bytes 75).toNat
    let token := slice bytes 76 size
    if crypto.GenerateToken session._tokenKey ≠ uint32 (atoi token) then
      ⟨true, { session with _tokenKey := [] }, 1 + size⟩
    else ⟨true, { session with _tokenKey := [], _status := .STATUS_AUTHED }, 1 + size⟩
  else ⟨true, { session with _status := .STATUS_AUTHED }, 0⟩

/-- `AuthSession::HandleLogonProof`. -/
def HandleLogonProof : Handled :=
  let closed := { session with _status := .STATUS_CLOSED }
  if session._expversion = 0 then ⟨false, closed, 0⟩
  else
    let A := slice bytes 1 32
    if crypto.isZeroModN A then ⟨false, closed, 0⟩
    else
      let K := crypto.sessionKey A session.v session.b session.B
      let M := crypto.proof session._accountInfo.Login session.s A session.B K
      if M = slice bytes 33 20 then checkToken crypto { closed with K := K } bytes
      else ⟨true, { closed with K := K }, 0⟩

/-- `AuthSession::HandleReconnectProof`. -/
def HandleReconnectProof : Handled :=
  let closed := { session with _status := .STATUS_CLOSED }
  if session._accountInfo.Login = [] ∨ session._reconnectProof = 0 ∨ session.K = 0 then
    ⟨false, closed, 0⟩
  else
    let digest := crypto.reconnectDigest session._accountInfo.Login (slice bytes 1 16)
      session._reconnectProof session.K
    if digest = slice bytes 17 20 then ⟨true, { closed with _status := .STATUS_AUTHED }, 0⟩
    else ⟨false, closed, 0⟩

/-- `AuthSession::HandleRealmList`. -/
def HandleRealmList : Handled := ⟨true, { session with
    _queryProcessor := session._queryProcessor ++ [.realmList session._accountInfo.Id]
    _status := .STATUS_WAITING_FOR_REALM_LIST }, 0⟩

/-- The handler of a command. -/
def handle : AuthCmd → Handled
  | .AUTH_LOGON_CHALLENGE => session.HandleLogonChallenge bytes
  | .AUTH_LOGON_PROOF => session.HandleLogonProof crypto bytes
  | .AUTH_RECONNECT_CHALLENGE => session.HandleReconnectChallenge bytes
  | .AUTH_RECONNECT_PROOF => session.HandleReconnectProof crypto bytes
  | .REALM_LIST => session.HandleRealmList

/-! ## The callbacks -/

/-- `AccountInfo::LoadResult`. -/
def loadResult (row : AccountRow) : AccountInfo where
  Id := row.id
  Login := crypto.Utf8ToUpperOnlyLatin row.username
  IsLockedToIP := row.locked
  LockCountry := row.lock_country
  LastIP := row.last_ip
  IsBanned := row.banned
  IsPermanenetlyBanned := row.permanentlyBanned

/-- The country lock of `LogonChallengeCallback` refuses the account. -/
def countryRefuses (info : AccountInfo) : Bool :=
  info.LockCountry ≠ [] ∧ info.LockCountry ≠ [48, 48] ∧ session._ipCountry ≠ [] ∧ session._ipCountry ≠ info.LockCountry

/-- The salt and the verifier of an account: those of the database, if they have their full length. -/
def saltAndVerifier (row : LogonRow) (salt : ℕ) : ℕ × ℕ :=
  if row.v.length ≠ 64 ∨ row.s.length ≠ 64 then (salt, crypto.verifier row.sha_pass_hash salt)
  else (crypto.SetHexStr row.s, crypto.SetHexStr row.v)

/-- `AuthSession::CheckIpCallback`, up to whether it starts to read. -/
def CheckIpCallback (result : List (Bool × Bytes)) : AuthSession :=
  let country := result.foldl (fun country row ↦ if row.2 = [] then country else row.2)
    session._ipCountry
  { session with _ipCountry := country }

/-- `AuthSession::LogonChallengeCallback`. -/
def LogonChallengeCallback (result : Option LogonRow) (salt b : ℕ) : AuthSession :=
  match result with
  | none => session
  | some row =>
    let info := loadResult crypto row.toAccountRow
    let loaded := { session with _accountInfo := info }
    if info.IsLockedToIP ∧ info.LastIP ≠ ip then loaded
    else if ¬ info.IsLockedToIP ∧ session.countryRefuses info then loaded
    else if info.IsBanned then loaded
    else
      let (s, v) := saltAndVerifier crypto row salt
      { loaded with
        s := s
        v := v
        b := b
        B := crypto.publicKey v b
        _tokenKey := row.token_key
        _status := if expversionOf session._build ≠ 0 then .STATUS_LOGON_PROOF
          else session._status }

/-- `AuthSession::ReconnectChallengeCallback`. -/
def ReconnectChallengeCallback (result : Option ReconnectRow) (reconnectProof : ℕ) : AuthSession :=
  match result with
  | none => session
  | some row =>
    { session with
      _accountInfo := loadResult crypto row.toAccountRow
      K := crypto.SetHexStr row.sessionKey
      _reconnectProof := reconnectProof
      _status := .STATUS_RECONNECT_PROOF }

/-- `AuthSession::RealmListCallback`. -/
def RealmListCallback : AuthSession := { session with _status := .STATUS_AUTHED }

/-- What a callback does to the session. -/
def callback : Answer → AuthSession
  | .CheckIpCallback result => session.CheckIpCallback result
  | .LogonChallengeCallback result salt b => session.LogonChallengeCallback crypto ip result salt b
  | .ReconnectChallengeCallback result reconnectProof =>
    session.ReconnectChallengeCallback crypto result reconnectProof
  | .RealmListCallback => session.RealmListCallback

/-- The answer to a query takes it from the list and runs its callback. -/
def answer (a : Answer) : AuthSession :=
  { session with _queryProcessor := session._queryProcessor.eraseP a.isFor }.callback crypto ip a

end AuthSession

/-! ## The connection -/

/-- What a turn of the loop of `ReadHandler` comes to. -/
inductive Dispatch where
  /-- Nothing is there, or not all of a message: the loop ends. -/
  | wait
  /-- A command without a handler: the buffer is emptied, and the loop ends. -/
  | ignore
  /-- The connection is closed. -/
  | reject
  /-- A message of this size is handled. -/
  | handle (cmd : AuthCmd) (size : ℕ)
  deriving DecidableEq

/-- `size` in `ReadHandler`: for a challenge, the size field is added in 16 bits. -/
def messageSize (cmd : AuthCmd) (bytes : Bytes) : ℕ :=
  if cmd.isChallenge then (cmd.packetSize + uint16At bytes 2) % 2 ^ 16 else cmd.packetSize

/-- The tests of `ReadHandler`, with `active` bytes in the buffer, for what the read pointer points
at. -/
def dispatch (status : AuthStatus) (active : ℕ) (bytes : Bytes) : Dispatch :=
  if active = 0 then .wait
  else
    match Handlers (byteAt bytes 0) with
    | none => .ignore
    | some cmd =>
      if status ≠ cmd.status then .reject
      else if active < cmd.packetSize then .wait
      else if cmd.isChallenge ∧ MAX_ACCEPTED_CHALLENGE_SIZE < messageSize cmd bytes then .reject
      else if active < messageSize cmd bytes then .wait
      else .handle cmd (messageSize cmd bytes)

/-- What a session has received or been told, for the properties. -/
inductive Event where
  /-- A message was handled, with these bytes at the read pointer. -/
  | message (cmd : AuthCmd) (bytes : Bytes)
  | answer (a : Answer)

/-- What has happened so far. -/
structure History where
  /-- All bytes that have come in. -/
  stream : Bytes
  /-- The bytes that have been taken from the buffer. -/
  consumed : Bytes
  /-- The messages that were handled, each with its bytes. -/
  messages : List Bytes
  /-- The callbacks so far. -/
  answers : List Answer
  /-- What has happened since the last challenge message, the last first. -/
  since : List Event

/-- What a connection is doing: nothing has been read yet, it waits for bytes, or it is in the loop of
`ReadHandler`. -/
inductive Activity where
  | connecting
  | reading
  | handling
  deriving DecidableEq

/-- A connection: the socket with its buffer, and the session. -/
structure Connection where
  _readBuffer : MessageBuffer
  _closed : Bool
  activity : Activity
  session : AuthSession
  history : History

namespace Connection

variable (crypto : Crypto) (ip : Bytes) (c : Connection)

/-- A new connection; the buffer has `READ_BLOCK_SIZE` bytes. -/
def start : Connection where
  _readBuffer := ⟨0, 0, List.replicate 4096 0⟩
  _closed := false
  activity := .connecting
  session := AuthSession.start
  history := ⟨[], [], [], [], []⟩

/-- `Socket::AsyncRead`. -/
def AsyncRead : Connection :=
  { c with _readBuffer := c._readBuffer.Normalize.EnsureFreeSpace, activity := .reading }

/-- `Socket::CloseSocket`. -/
def CloseSocket : Connection := { c with _closed := true }

/-- The tests of `ReadHandler` in the current state. -/
def dispatch : Dispatch := Gundrak.dispatch c.session._status c._readBuffer.GetActiveSize c._readBuffer.GetReadPointer

/-- A message is handled that has `size` bytes. -/
def handleMessage (cmd : AuthCmd) (size : ℕ) : Connection :=
  let bytes := c._readBuffer.GetReadPointer
  let handled := c.session.handle crypto bytes cmd
  let c' := { c with
    session := handled.session
    history := { c.history with
      since := if cmd.isChallenge then [] else .message cmd bytes :: c.history.since } }
  if handled.ok then
    { c' with
      _readBuffer := (c._readBuffer.ReadCompleted handled.read).ReadCompleted size
      history := { c'.history with
        consumed := c.history.consumed ++ bytes.take (handled.read + size)
        messages := c.history.messages ++ [bytes.take (handled.read + size)] } }
  else c'.CloseSocket

/-- A turn of the loop of `ReadHandler`. -/
def readHandler : Connection :=
  match c.dispatch with
  | .wait => c.AsyncRead
  | .ignore =>
    { c with
      _readBuffer := c._readBuffer.Reset
      history := { c.history with consumed := c.history.consumed ++ c._readBuffer.unread } }.AsyncRead
  | .reject => c.CloseSocket
  | .handle cmd size => c.handleMessage crypto cmd size

/-- The address of the client is banned. -/
def bannedIp : Answer → Bool
  | .CheckIpCallback result => result.any Prod.fst
  | _ => false

/-- An answer comes in. -/
def answer (a : Answer) : Connection :=
  let c' := { c with
    session := c.session.answer crypto ip a
    history := { c.history with
      answers := c.history.answers ++ [a]
      since := .answer a :: c.history.since } }
  match a with
  | .CheckIpCallback _ => if bannedIp a then c' else c'.AsyncRead
  | _ => c'

/-- `Socket::ReadHandlerInternal`, before it calls `ReadHandler`. -/
def received (bytes : Bytes) : Connection :=
  { c with
    _readBuffer := c._readBuffer.WriteCompleted bytes
    activity := .handling
    history := { c.history with stream := c.history.stream ++ bytes } }

/-- What moves a connection. -/
inductive Call where
  | answer (a : Answer)
  | received (bytes : Bytes)
  | readError
  | readHandler
  deriving DecidableEq

/-- What a call does.  Nothing happens to a connection that is closed, and the callbacks come while
`ReadHandler` is not running. -/
def next : Call → Option Connection
  | .answer a =>
    if c._closed = false ∧ c.activity ≠ .handling ∧ c.session._queryProcessor.any a.isFor then
      some (c.answer crypto ip a)
    else none
  | .received bytes =>
    if c._closed = false ∧ c.activity = .reading ∧ bytes.length ≤ c._readBuffer.GetRemainingSpace then
      some (c.received bytes)
    else none
  | .readError => if c._closed = false ∧ c.activity = .reading then some c.CloseSocket else none
  | .readHandler =>
    if c._closed = false ∧ c.activity = .handling then some (c.readHandler crypto) else none

end Connection

/-- A connection of a client with the address `ip`, from its start. -/
def authServer (crypto : Crypto) (ip : Bytes) : Machine Connection Connection.Call where
  start := Connection.start
  next c call := c.next crypto ip call

end Gundrak
