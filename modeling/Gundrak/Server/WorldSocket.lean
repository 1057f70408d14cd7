import Gundrak.Auth.MessageBuffer
import Gundrak.Util.Keystream
import Gundrak.Util.Machine

/-!
# What a world connection sends

`SendPacket` puts packets into `_bufferQueue`, from any thread.  `Update` takes them out, writes each behind
its header into a buffer of `_sendBufferSize` bytes, and hands a buffer to `QueuePacket` when the next packet
does not fit into it; a packet that fits into no such buffer gets one of its own.

A packet goes encrypted if encryption was on when it was given to `SendPacket`, and only its header does.
The cipher is its keystream (`AuthCrypt`).

`HandleAuthSessionCallback` turns encryption on, and it runs at most once: after `CMSG_AUTH_SESSION` nothing
is read until it has run, and when it has, the connection is closing or `_authed`.
-/

namespace Gundrak

/-! ## Headers -/

/-- `ServerPktHeader`, with as many bytes of `header` as `getHeaderLength` says. -/
structure ServerPktHeader where
  size : UInt32
  header : List UInt8

namespace ServerPktHeader

/-- `ServerPktHeader::isLargePacket`. -/
def isLargePacket (size : UInt32) : Bool := decide (size > 0x7FFF)

/-- `ServerPktHeader(uint32 size, uint16 cmd)`. -/
def new (size : UInt32) (cmd : UInt16) : ServerPktHeader :=
  { size
    header := (if isLargePacket size then [(((size >>> 16) &&& 0xFF) ||| 0x80).toUInt8] else []) ++
      [((size >>> 8) &&& 0xFF).toUInt8, (size &&& 0xFF).toUInt8,
       (cmd &&& 0xFF).toUInt8, ((cmd >>> 8) &&& 0xFF).toUInt8] }

/-- `ServerPktHeader::getHeaderLength`. -/
def getHeaderLength (h : ServerPktHeader) : ℕ := 2 + if isLargePacket h.size then 3 else 2

theorem length_header (size : UInt32) (cmd : UInt16) :
    (new size cmd).header.length = (new size cmd).getHeaderLength := by
  rw [new, getHeaderLength]
  cases isLargePacket size <;> rfl

end ServerPktHeader

/-! ## Encryption -/

/-- `ARC4::UpdateData`, given the keystream: each byte is mixed with the next byte of it. -/
def updateData : (ℕ → UInt8) → List UInt8 → List UInt8 := Keystream.mixWith fun key b ↦ b ^^^ key

/-- `AuthCrypt`.  A cipher is the keystream that it has not used yet. -/
structure AuthCrypt where
  _clientDecrypt : ℕ → UInt8
  _serverEncrypt : ℕ → UInt8
  _initialized : Bool

namespace AuthCrypt

/-- `AuthCrypt::Init` with the two streams of the session key.  The first 1024 bytes are dropped. -/
def Init (decryptHash encryptHash : ℕ → UInt8) : AuthCrypt :=
  { _clientDecrypt := Keystream.skip decryptHash 1024
    _serverEncrypt := Keystream.skip encryptHash 1024
    _initialized := true }

/-- `AuthCrypt::EncryptSend`. -/
def EncryptSend (c : AuthCrypt) (data : List UInt8) : AuthCrypt × List UInt8 :=
  if c._initialized then
    ({ c with _serverEncrypt := Keystream.skip c._serverEncrypt data.length }, updateData c._serverEncrypt data)
  else (c, data)

/-- `AuthCrypt::DecryptRecv`. -/
def DecryptRecv (c : AuthCrypt) (data : List UInt8) : AuthCrypt × List UInt8 :=
  if c._initialized then
    ({ c with _clientDecrypt := Keystream.skip c._clientDecrypt data.length }, updateData c._clientDecrypt data)
  else (c, data)

end AuthCrypt

/-! ## The loop of `Update` -/

/-- `EncryptablePacket`: a packet, and whether its header is to be encrypted. -/
structure EncryptablePacket where
  opcode : UInt16
  contents : List UInt8
  _encrypt : Bool

/-- The header that `WorldSocket::Update` makes for a packet. -/
def EncryptablePacket.header (queued : EncryptablePacket) : ServerPktHeader :=
  .new (UInt32.ofNat (queued.contents.length + 2)) queued.opcode

/-- The locals of `WorldSocket::Update`, and what it has handed to `QueuePacket`. -/
structure Sending where
  _authCrypt : AuthCrypt
  buffer : MessageBuffer
  handed : List MessageBuffer

namespace Sending

/-- `QueuePacket(std::move(buffer))` and `buffer.Resize(_sendBufferSize)`, if the packet does not fit. -/
def makeRoom (st : Sending) (_sendBufferSize needed : ℕ) : Sending :=
  if st.buffer.GetRemainingSpace < needed then
    { st with handed := st.handed ++ [st.buffer]
              buffer := MessageBuffer.moved.Resize _sendBufferSize }
  else st

/-- The header, and the contents if there are any. -/
def writePacket (buffer : MessageBuffer) (header contents : List UInt8) : Option MessageBuffer :=
  (buffer.Write header).bind fun buffer ↦
    if contents = [] then some buffer else buffer.Write contents

/-- The packet goes into the buffer if it fits, and into one of its own otherwise. -/
def put (st : Sending) (needed : ℕ) (header contents : List UInt8) : Option Sending :=
  if st.buffer.GetRemainingSpace ≥ needed then
    (writePacket st.buffer header contents).map fun buffer ↦ { st with buffer }
  else
    (writePacket (.ofSize needed) header contents).map fun packetBuffer ↦
      { st with handed := st.handed ++ [packetBuffer] }

/-- `_authCrypt.EncryptSend`, if the packet needs it: the cipher behind it and the bytes of the header. -/
def encryptHeader (_authCrypt : AuthCrypt) (queued : EncryptablePacket) : AuthCrypt × List UInt8 :=
  if queued._encrypt then _authCrypt.EncryptSend queued.header.header
  else (_authCrypt, queued.header.header)

/-- One turn of the loop, with the packet that has been taken from `_bufferQueue`. -/
def send (_sendBufferSize : ℕ) (st : Sending) (queued : EncryptablePacket) : Option Sending :=
  let needed := queued.contents.length + queued.header.getHeaderLength
  let crypted := encryptHeader st._authCrypt queued
  (({ st with _authCrypt := crypted.1 } : Sending).makeRoom _sendBufferSize needed).put needed
    crypted.2 queued.contents

/-- The loop. -/
def sendAll (_sendBufferSize : ℕ) (st : Sending) : List EncryptablePacket → Option Sending
  | [] => some st
  | queued :: queue => (st.send _sendBufferSize queued).bind fun st ↦ st.sendAll _sendBufferSize queue

/-- The last buffer is handed over unless it is empty. -/
def finish (st : Sending) : List MessageBuffer :=
  if st.buffer.GetActiveSize > 0 then st.handed ++ [st.buffer] else st.handed

end Sending

/-! ## The connection -/

/-- What has happened: the packets given to `SendPacket` and how many of them came before encryption was on,
the packets that `Update` has dealt with, the buffers it has handed to `QueuePacket`, and the keystream that
encryption began with. -/
structure SendHistory where
  given : List EncryptablePacket
  plain : ℕ
  dealtWith : List EncryptablePacket
  handed : List MessageBuffer
  key : ℕ → UInt8

/-- The members of `WorldSocket` that have to do with what it sends. -/
structure SendingSocket where
  _authCrypt : AuthCrypt
  _bufferQueue : List EncryptablePacket
  _sendBufferSize : ℕ
  isOpen : Bool
  history : SendHistory

namespace SendingSocket

variable (s : SendingSocket)

/-- `WorldSocket::SendPacket`. -/
def SendPacket (opcode : UInt16) (contents : List UInt8) : SendingSocket :=
  if s.isOpen then
    let queued : EncryptablePacket := ⟨opcode, contents, s._authCrypt._initialized⟩
    { s with
      _bufferQueue := s._bufferQueue ++ [queued]
      history := { s.history with
        given := s.history.given ++ [queued]
        plain := s.history.plain + if queued._encrypt then 0 else 1 } }
  else s

/-- `WorldSocket::Update`, up to `BaseSocket::Update`.  A packet that comes while the loop is running is
as good as one that was there before. -/
def Update : Option SendingSocket :=
  (Sending.sendAll s._sendBufferSize ⟨s._authCrypt, .ofSize s._sendBufferSize, []⟩ s._bufferQueue).map
    fun st ↦
      { s with
        _authCrypt := st._authCrypt
        _bufferQueue := []
        history := { s.history with
          dealtWith := s.history.dealtWith ++ s._bufferQueue
          handed := s.history.handed ++ st.finish } }

/-- `_authCrypt.Init` in `HandleAuthSessionCallback`. -/
def initCrypt (decryptHash encryptHash : ℕ → UInt8) : SendingSocket :=
  { s with
    _authCrypt := .Init decryptHash encryptHash
    history := { s.history with key := (AuthCrypt.Init decryptHash encryptHash)._serverEncrypt } }

/-- What is done with a connection. -/
inductive Call
  | SendPacket (opcode : UInt16) (contents : List UInt8)
  | SetSendBufferSize (sendBufferSize : ℕ)
  | initCrypt (decryptHash encryptHash : ℕ → UInt8)
  | CloseSocket
  | Update

/-- A call.  It is undefined for `Update` to write behind the end of a buffer, and for encryption to be turned
on twice. -/
def next : Call → Option SendingSocket
  | .SendPacket opcode contents => some (s.SendPacket opcode contents)
  | .SetSendBufferSize sendBufferSize => some { s with _sendBufferSize := sendBufferSize }
  | .initCrypt decryptHash encryptHash =>
    if s._authCrypt._initialized then none else some (s.initCrypt decryptHash encryptHash)
  | .CloseSocket => some { s with isOpen := false }
  | .Update => s.Update

/-- `WorldSocket(tcp::socket&&)`. -/
def start : SendingSocket :=
  { _authCrypt := ⟨fun _ ↦ 0, fun _ ↦ 0, false⟩
    _bufferQueue := []
    _sendBufferSize := 4096
    isOpen := true
    history := ⟨[], 0, [], [], fun _ ↦ 0⟩ }

end SendingSocket

/-- The sending side of a connection as a machine. -/
def worldSocketOutput : Machine SendingSocket SendingSocket.Call where
  start := SendingSocket.start
  next := SendingSocket.next

end Gundrak
