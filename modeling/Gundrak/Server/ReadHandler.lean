import Gundrak.Server.WorldSocket

/-!
# What a world connection reads

Bytes come in pieces of any size.  `ReadHandler` fills `_headerBuffer` with six of them, and when they are
there, `ReadHeaderHandler` decrypts the header in place and makes `_packetBuffer` as large as the payload.
When that is full too, `ReadDataHandler` moves it into a packet, and the next header begins.

`CMSG_AUTH_SESSION` starts a query, and the handler stops there: nothing is read until the callback turns
encryption on and calls `AsyncRead`, or closes the connection.

`Peer` is what the code asks of the rest of the server.  Whatever depends on it is taken to depend on the
packets so far.
-/

namespace Gundrak

/-! ## Headers -/

/-- The byte at `i`. -/
def byteOf (bytes : List UInt8) (i : ℕ) : ℕ := (bytes.getD i 0).toNat

/-- `ClientPktHeader`, as the client sends it: `size` has its high byte first. -/
structure ClientPktHeader where
  size : ℕ
  cmd : ℕ
  deriving DecidableEq

namespace ClientPktHeader

/-- `header->cmd`, which is the same in the packet and on the host. -/
def cmdOf (bytes : List UInt8) : ℕ :=
  byteOf bytes 2 + byteOf bytes 3 * 2 ^ 8 + byteOf bytes 4 * 2 ^ 16 + byteOf bytes 5 * 2 ^ 24

/-- The header after `EndianConvertReverse(header->size)` and `EndianConvert(header->cmd)`. -/
def ofBytes (bytes : List UInt8) : ClientPktHeader :=
  { size := byteOf bytes 0 * 2 ^ 8 + byteOf bytes 1
    cmd := cmdOf bytes }

/-- `ClientPktHeader::IsValidSize`. -/
def IsValidSize (h : ClientPktHeader) : Prop := 4 ≤ h.size ∧ h.size < 10240

/-- `ClientPktHeader::IsValidOpcode`; there are `NUM_OPCODE_HANDLERS` opcodes. -/
def IsValidOpcode (h : ClientPktHeader) : Prop := h.cmd < 0x51F

instance (h : ClientPktHeader) : Decidable h.IsValidSize := inferInstanceAs (Decidable (_ ∧ _))

instance (h : ClientPktHeader) : Decidable h.IsValidOpcode := inferInstanceAs (Decidable (_ < _))

/-- `header->size`, as it is on the host. -/
def hostSize (bytes : List UInt8) : ℕ := byteOf bytes 0 + byteOf bytes 1 * 2 ^ 8

/-- The bytes of a header, after its `size` has become `size`. -/
def withHostSize (bytes : List UInt8) (size : ℕ) : List UInt8 :=
  UInt8.ofNat (size % 2 ^ 8) :: UInt8.ofNat (size / 2 ^ 8) :: bytes.drop 2

end ClientPktHeader

/-! ## Packets -/

/-- A packet that has been handed to `ReadDataHandler`, with the size that its header said. -/
structure ClientPacket where
  size : ℕ
  opcode : ℕ
  payload : List UInt8
  deriving DecidableEq

/-- `WorldSocket::ReadDataHandlerResult`. -/
inductive ReadDataHandlerResult
  | Ok
  | Error
  | WaitingForQuery
  deriving DecidableEq

/-- The rest of the server: whether `HandlePing` takes the peer for over-speed, whether `HandleAuthSession`
can read all it needs, and what `HandleAuthSessionCallback` does, which closes the connection or turns
encryption on with the two streams of the session key. -/
structure Peer where
  overSpeed : List ClientPacket → Bool
  readable : List UInt8 → Bool
  callback : List ClientPacket → Option ((ℕ → UInt8) × (ℕ → UInt8))

def CMSG_PING : ℕ := 0x1DC
def CMSG_AUTH_SESSION : ℕ := 0x1ED
def CMSG_KEEP_ALIVE : ℕ := 0x407

/-- `WorldSocket::ReadDataHandler` with the last of `packets`.  There is a `_worldSession` from the moment on
where the connection is `_authed`.  `HandlePing` reads two numbers. -/
def Peer.ReadDataHandler (peer : Peer) (_authed : Bool) (packets : List ClientPacket)
    (packet : ClientPacket) : ReadDataHandlerResult :=
  if packet.opcode = CMSG_PING then
    if 8 ≤ packet.payload.length ∧ _authed ∧ ¬ peer.overSpeed (packets ++ [packet]) then .Ok else .Error
  else if packet.opcode = CMSG_AUTH_SESSION then
    if _authed then .Error else if peer.readable packet.payload then .WaitingForQuery else .Error
  else if packet.opcode = CMSG_KEEP_ALIVE then .Ok
  else if _authed then .Ok
  else .Error

/-! ## The connection -/

/-- What a connection is at: `AsyncRead` waits for bytes, the loop of `ReadHandler` runs, or the query of
`HandleAuthSession` does. -/
inductive ReadActivity
  | reading
  | handling
  | waitingForQuery
  deriving DecidableEq

/-- The members of `WorldSocket` that have to do with what it reads, and what has happened: all bytes that
have come in, and the packets that `ReadDataHandler` has been handed. -/
structure ReadingSocket where
  _readBuffer : MessageBuffer
  _headerBuffer : MessageBuffer
  _packetBuffer : MessageBuffer
  _authCrypt : AuthCrypt
  _authed : Bool
  isOpen : Bool
  activity : ReadActivity
  stream : List UInt8
  packets : List ClientPacket

namespace ReadingSocket

variable (peer : Peer) (s : ReadingSocket)

/-- `Socket::AsyncRead`. -/
def AsyncRead : ReadingSocket :=
  { s with _readBuffer := s._readBuffer.Normalize.EnsureFreeSpace, activity := .reading }

/-- `Socket::CloseSocket`. -/
def CloseSocket : ReadingSocket := { s with isOpen := false }

/-- The loop is left because there is nothing more to read, which is asserted. -/
def breakLoop : Option ReadingSocket :=
  if s._readBuffer.GetActiveSize = 0 then some s.AsyncRead else none

/-- `WorldSocket::ReadHeaderHandler`. -/
def ReadHeaderHandler : Option (Bool × ReadingSocket) :=
  if s._headerBuffer.GetActiveSize = 6 then
    let crypted := s._authCrypt.DecryptRecv (s._headerBuffer.GetReadPointer.take 6)
    let header := ClientPktHeader.ofBytes crypted.2
    let s := { s with _authCrypt := crypted.1 }
    if ¬ header.IsValidSize ∨ ¬ header.IsValidOpcode then some (false, s)
    else
      some (true, { s with
          _headerBuffer := s._headerBuffer.overwrite (ClientPktHeader.withHostSize crypted.2 (header.size - 4))
          _packetBuffer := s._packetBuffer.Resize (header.size - 4) })
  else none

/-- The packet that `ReadDataHandler` makes: it takes all of `_packetBuffer`. -/
def packet : ClientPacket :=
  { size := ClientPktHeader.hostSize s._headerBuffer.GetReadPointer + 4
    opcode := ClientPktHeader.cmdOf s._headerBuffer.GetReadPointer
    payload := s._packetBuffer._storage }

/-- What the result of `ReadDataHandler` means for the loop. -/
def handled : ReadDataHandlerResult → ReadingSocket
  | .Ok => s
  | .WaitingForQuery => { s with activity := .waitingForQuery }
  | .Error => s.CloseSocket

/-- `ReadDataHandler`, and `_headerBuffer.Reset()`. -/
def handlePacket : ReadingSocket := ({ s with
    _packetBuffer := MessageBuffer.moved
    _headerBuffer := s._headerBuffer.Reset
    packets := s.packets ++ [s.packet] } : ReadingSocket).handled
      (peer.ReadDataHandler s._authed s.packets s.packet)

/-- The part of the loop that reads the payload. -/
def readPayload : Option ReadingSocket :=
  if s._packetBuffer.GetRemainingSpace > 0 then
    let readDataSize := min s._readBuffer.GetActiveSize s._packetBuffer.GetRemainingSpace
    (s._packetBuffer.Write (s._readBuffer.GetReadPointer.take readDataSize)).bind fun _packetBuffer ↦
      let s' := { s with _packetBuffer, _readBuffer := s._readBuffer.ReadCompleted readDataSize }
      if _packetBuffer.GetRemainingSpace > 0 then s'.breakLoop else some (s'.handlePacket peer)
  else some (s.handlePacket peer)

/-- The part of the loop that reads the header. -/
def readHeader : Option ReadingSocket :=
  let readHeaderSize := min s._readBuffer.GetActiveSize s._headerBuffer.GetRemainingSpace
  (s._headerBuffer.Write (s._readBuffer.GetReadPointer.take readHeaderSize)).bind fun _headerBuffer ↦
    let s' := { s with _headerBuffer, _readBuffer := s._readBuffer.ReadCompleted readHeaderSize }
    if _headerBuffer.GetRemainingSpace > 0 then s'.breakLoop
    else
      s'.ReadHeaderHandler.bind fun read ↦
        if read.1 then read.2.readPayload peer else some read.2.CloseSocket

/-- A turn of the loop of `WorldSocket::ReadHandler`, or `AsyncRead` at its end. -/
def readHandler : Option ReadingSocket :=
  if s._readBuffer.GetActiveSize > 0 then
    if s._headerBuffer.GetRemainingSpace > 0 then s.readHeader peer else s.readPayload peer
  else some s.AsyncRead

/-- `Socket::ReadHandlerInternal`, before it calls `ReadHandler`. -/
def received (bytes : List UInt8) : ReadingSocket :=
  { s with
    _readBuffer := s._readBuffer.WriteCompleted bytes
    activity := .handling
    stream := s.stream ++ bytes }

/-- `WorldSocket::HandleAuthSessionCallback`. -/
def HandleAuthSessionCallback : ReadingSocket :=
  match peer.callback s.packets with
  | none => { s with isOpen := false }
  | some keys => { s with _authCrypt := .Init keys.1 keys.2, _authed := true }.AsyncRead

/-- What moves a connection. -/
inductive Call
  | received (bytes : List UInt8)
  | readHandler
  | callback
  deriving DecidableEq

/-- What a call does.  Nothing happens to a connection that is closed.  Some bytes come in if `AsyncRead` has
room for them, and the callback comes when it is waited for. -/
def next : Call → Option ReadingSocket
  | .received bytes =>
    if s.isOpen ∧ s.activity = .reading ∧ bytes ≠ [] ∧ bytes.length ≤ s._readBuffer.GetRemainingSpace then
      some (s.received bytes)
    else none
  | .readHandler => if s.isOpen ∧ s.activity = .handling then s.readHandler peer else none
  | .callback =>
    if s.isOpen ∧ s.activity = .waitingForQuery then some (s.HandleAuthSessionCallback peer) else none

/-- A connection after the `AsyncRead` of `CheckIpCallback`.  The buffer has `READ_BLOCK_SIZE` bytes, and the
one for the header six. -/
def start : ReadingSocket where
  _readBuffer := .ofSize 4096
  _headerBuffer := .ofSize 6
  _packetBuffer := .ofSize 4096
  _authCrypt := ⟨fun _ ↦ 0, fun _ ↦ 0, false⟩
  _authed := false
  isOpen := true
  activity := .reading
  stream := []
  packets := []

end ReadingSocket

/-- The reading side of a connection as a machine. -/
def worldSocketInput (peer : Peer) : Machine ReadingSocket ReadingSocket.Call where
  start := ReadingSocket.start
  next s call := s.next peer call

end Gundrak
