import ServiceServer.Runtime

/-!
# Datagrams (`NetworkDefs.h`, `Constants.h`)

The packet headers and types, the job a received datagram becomes, and the
three functions every service sends and receives through: `createRawDatagram`,
`sendDatagram` and `parseRawDatagram`.
-/

namespace ServiceServer

/-! ## Packet configuration -/

/-- `PacketHeader`: the bit a header mask carries for a priority. -/
inductive PacketHeader where
  | normal
  | critic
  | urgent
  deriving DecidableEq, Repr

/-- The mask of a single header. -/
def PacketHeader.mask : PacketHeader → UInt8
  | .normal => 1
  | .critic => 2
  | .urgent => 4

/-- `PacketType`: a `uint8_t`, so a received byte may also be none of the listed
values. -/
inductive PacketType where
  | invalid
  | findMatch
  | ackMatchFound
  | cancelSearch
  | matchFound
  | version
  | update
  | ok
  | updateMap
  | searchAck
  | joinGame
  | createMatch
  | matchUnique
  | matchUsed
  | playerMovement
  | reconcile
  | ackJoined
  | ackMatchCreated
  | createPlayer
  | ackPlayersCreated
  /-- A value beyond the listed ones. -/
  | unlisted (code : UInt8) (h : 20 ≤ code)
  deriving DecidableEq, Repr

namespace PacketType

/-- `static_cast<uint8_t>`. -/
def toByte : PacketType → UInt8
  | invalid => 0
  | findMatch => 1
  | ackMatchFound => 2
  | cancelSearch => 3
  | matchFound => 4
  | version => 5
  | update => 6
  | ok => 7
  | updateMap => 8
  | searchAck => 9
  | joinGame => 10
  | createMatch => 11
  | matchUnique => 12
  | matchUsed => 13
  | playerMovement => 14
  | reconcile => 15
  | ackJoined => 16
  | ackMatchCreated => 17
  | createPlayer => 18
  | ackPlayersCreated => 19
  | unlisted code _ => code

/-- `static_cast<PacketType>`. -/
def ofByte (b : UInt8) : PacketType :=
  if h : 20 ≤ b then .unlisted b h
  else
    match b.toNat with
    | 1 => .findMatch
    | 2 => .ackMatchFound
    | 3 => .cancelSearch
    | 4 => .matchFound
    | 5 => .version
    | 6 => .update
    | 7 => .ok
    | 8 => .updateMap
    | 9 => .searchAck
    | 10 => .joinGame
    | 11 => .createMatch
    | 12 => .matchUnique
    | 13 => .matchUsed
    | 14 => .playerMovement
    | 15 => .reconcile
    | 16 => .ackJoined
    | 17 => .ackMatchCreated
    | 18 => .createPlayer
    | 19 => .ackPlayersCreated
    | _ => .invalid

/-- The byte of a type is read back as that type. -/
@[simp] theorem ofByte_toByte (t : PacketType) : ofByte t.toByte = t := by
  cases t
  case unlisted code h => simp [toByte, ofByte, h]
  all_goals rfl

end PacketType

/-- `RawPacketJob`: a parsed datagram and where it came from. -/
structure RawPacketJob where
  headerMask : UInt8
  type : PacketType
  content : Bytes
  sender : Option IpAddress
  port : UInt16
  deriving DecidableEq, Repr

/-! ## Datagrams -/

/-- What a UDP socket is given to send: the bytes and the destination. -/
structure Datagram where
  data : Bytes
  ip : IpAddress
  port : UInt16
  deriving DecidableEq, Repr

/-- `CreateRawDatagram`: the header, the type and the content. -/
def createRawDatagram (headerMask : UInt8) (type : PacketType) (content : Bytes) : Bytes :=
  headerMask :: type.toByte :: content

/-- `SendDatagram`. -/
def sendDatagram (header : PacketHeader) (type : PacketType) (content : Bytes)
    (ip : IpAddress) (port : UInt16) : Datagram :=
  ⟨createRawDatagram header.mask type content, ip, port⟩

/-- What `SendDatagram` is called with. -/
structure SendCall where
  header : PacketHeader
  type : PacketType
  content : Bytes
  ip : IpAddress
  port : UInt16
  deriving DecidableEq, Repr

/-- What such a call gives the socket to send. -/
def SendCall.datagram (call : SendCall) : Datagram :=
  sendDatagram call.header call.type call.content call.ip call.port

/-- `sf::UdpSocket::receive` into a buffer of this size: a datagram that is too long
for it is lost. -/
def receiveInto (size : Nat) (data : Bytes) : Option Bytes :=
  if data.length ≤ size then some data else none

/-- `ParseRawDatagram`: `none` where the source returns `false`. -/
def parseRawDatagram (data : Bytes) (ip : IpAddress) (port : UInt16) : Option RawPacketJob :=
  match data with
  | header :: type :: content =>
    if PacketType.ofByte type = .invalid then none
    else some
      { headerMask := header
        type := .ofByte type
        content := content
        sender := some ip
        port := port }
  | _ => none

/-- **What `createRawDatagram` writes, `parseRawDatagram` reads back**: the same
header, type and content, for every type but the invalid one. -/
theorem parseRawDatagram_create {headerMask : UInt8} {type : PacketType} (ht : type ≠ .invalid)
    (content : Bytes) (ip : IpAddress) (port : UInt16) :
    parseRawDatagram (createRawDatagram headerMask type content) ip port
      = some ⟨headerMask, type, content, some ip, port⟩ := by
  simp [parseRawDatagram, createRawDatagram, ht]

/-- Only a datagram two bytes longer than the content can be read as it. -/
theorem length_of_parseRawDatagram {data : Bytes} {ip : IpAddress} {port : UInt16}
    {job : RawPacketJob} (h : parseRawDatagram data ip port = some job) :
    data.length = 2 + job.content.length := by
  unfold parseRawDatagram at h
  split at h
  · split at h
    · cases h
    · cases h
      simp only [List.length_cons]
      omega
  · cases h

theorem sender_of_parseRawDatagram {data : Bytes} {ip : IpAddress} {port : UInt16}
    {job : RawPacketJob} (h : parseRawDatagram data ip port = some job) :
    job.sender = some ip ∧ job.port = port := by
  unfold parseRawDatagram at h
  split at h
  · split at h
    · cases h
    · cases h
      exact ⟨rfl, rfl⟩
  · cases h

/-- What is read of a datagram does not depend on where it came from. -/
theorem parseRawDatagram_from {data : Bytes} {ip : IpAddress} {port : UInt16} {job : RawPacketJob}
    (h : parseRawDatagram data ip port = some job) (ip' : IpAddress) (port' : UInt16) :
    parseRawDatagram data ip' port' = some { job with sender := some ip', port := port' } := by
  unfold parseRawDatagram at h ⊢
  split at h
  · split_ifs at h with hinvalid
    cases h
    exact if_neg hinvalid
  · cases h

/-! ## Constants -/

/-- `GameServerIP.value()`: `sf::IpAddress::resolve` of a decimal address is that
address. -/
def gameServerIP : IpAddress := ⟨192, 168, 1, 133⟩

/-- `GameServerPort`. -/
def gameServerPort : UInt16 := 61000

end ServiceServer
